import Telemt.Config.PlainToml
import Telemt.Config.Rewriting

namespace Telemt.Config
open Foundation

/-! # When saving access sections is faithful -/

variable {ν ω : Type} {format : TomlFormat ν ω} {files : FileSystem} {dir : Line}
  {sections : List AccessSection} {content : AccessContent} {sect sect' : AccessSection}

variable {line : Line}

theorem trim_ne_header (plain : startsTable line = false) (sect : AccessSection) :
    trim line ≠ sect.header := by
  intro opens
  rw [startsTable_of_trim_header opens] at plain
  cases plain

theorem found_append {first second : List Line} :
    Found (first ++ second) sect ↔ Found first sect ∨ Found second sect := by
  unfold Found
  simp only [List.mem_append, or_and_right, exists_or]

theorem not_found_table {head : Line} {body : List Line} (other : sect ≠ sect')
    (opens : trim head = sect.header) (inner : ∀ line ∈ body, startsTable line = false) :
    ¬ Found (head :: body) sect' := by
  rintro ⟨line, member, opens'⟩
  rcases List.mem_cons.mp member with rfl | inside
  · exact other (AccessSection.header_injective (opens.symm.trans opens'))
  · exact trim_ne_header (inner line inside) sect' opens'

variable {lines rowLines : List Line}

theorem found_upsert (other : sect ≠ sect') (plain : ∀ line ∈ rowLines, startsTable line = false) :
    Found (upsertTomlTable lines sect (sect.header :: rowLines)) sect' ↔ Found lines sect' := by
  have written := not_found_table other (trim_header sect) plain
  by_cases found : Found lines sect
  · obtain ⟨_, _, _, _, cut, spliced⟩ := upsertTomlTable_found found (sect.header :: rowLines)
    have replaced := not_found_table other cut.opens cut.inner
    rw [spliced, cut.split, ← List.cons_append, found_append, found_append, found_append, found_append]
    simp only [written, replaced, or_false, false_or]
  · rw [upsertTomlTable_absent found]
    cases lines with
    | nil => exact ⟨fun found' => absurd found' written, fun ⟨_, member, _⟩ => absurd member List.not_mem_nil⟩
    | cons line more =>
      have blank : ¬ Found [[]] sect' := by
        rintro ⟨_, member, opens⟩
        rw [List.mem_singleton.mp member] at opens
        exact trim_ne_header rfl sect' opens
      show Found (line :: more ++ ([[]] ++ sect.header :: rowLines)) sect' ↔ _
      rw [found_append, found_append]
      simp only [blank, written, or_false]

def linesOf (sections : List AccessSection) (sect : AccessSection) :
    Option AccessSection → List Line → List Line
  | _, [] => []
  | owner, line :: rest =>
    if nextOwner sections owner line = some sect then
      line :: linesOf sections sect (nextOwner sections owner line) rest
    else linesOf sections sect (nextOwner sections owner line) rest

theorem linesOf_append (owner : Option AccessSection) (first second : List Line) :
    linesOf sections sect owner (first ++ second) = linesOf sections sect owner first ++
      linesOf sections sect (first.foldl (nextOwner sections) owner) second := by
  induction first generalizing owner with
  | nil => rfl
  | cons _ _ ih =>
    rw [List.cons_append, linesOf, linesOf, ih, List.foldl_cons]
    split_ifs <;> rfl

theorem mem_of_linesOf {owner : Option AccessSection}
    (member : line ∈ linesOf sections sect owner lines) : line ∈ lines := by
  induction lines generalizing owner with
  | nil => exact member
  | cons _ _ ih =>
    rw [linesOf] at member
    split_ifs at member
    · rcases List.mem_cons.mp member with rfl | later
      · exact List.mem_cons_self
      · exact List.mem_cons_of_mem _ (ih later)
    · exact List.mem_cons_of_mem _ (ih member)

theorem linesOf_body {body : List Line} (inner : ∀ line ∈ body, startsTable line = false)
    (owner : Option AccessSection) :
    body.foldl (nextOwner sections) owner = owner ∧
      linesOf sections sect owner body = if owner = some sect then body else [] := by
  induction body with
  | nil => exact ⟨rfl, by split_ifs <;> rfl⟩
  | cons line _ ih =>
    have kept : nextOwner sections owner line = owner := by
      rw [nextOwner, inner line List.mem_cons_self]
      rfl
    obtain ⟨folded, lines⟩ := ih fun other member => inner other (List.mem_cons_of_mem line member)
    rw [List.foldl_cons, linesOf, kept]
    refine ⟨folded, ?_⟩
    rw [lines]
    split_ifs <;> rfl

theorem linesOf_table {head : Line} {body : List Line} (saved : sect' ∈ sections)
    (opens : trim head = sect'.header) (inner : ∀ line ∈ body, startsTable line = false)
    (owner : Option AccessSection) :
    (head :: body).foldl (nextOwner sections) owner = some sect' ∧
      linesOf sections sect owner (head :: body) = if sect' = sect then head :: body else [] := by
  obtain ⟨folded, lines⟩ := @linesOf_body sections sect body inner (some sect')
  rw [List.foldl_cons, linesOf, nextOwner_header saved opens, lines]
  refine ⟨folded, ?_⟩
  by_cases same : sect' = sect
  · rw [if_pos (congrArg some same), if_pos (congrArg some same), if_pos same]
  · rw [if_neg (fun eq => same (Option.some.inj eq)), if_neg (fun eq => same (Option.some.inj eq)),
      if_neg same]

theorem linesOf_upsert (saved : sect' ∈ sections) (other : sect' ≠ sect)
    (plain : ∀ line ∈ rowLines, startsTable line = false)
    (member : line ∈ linesOf sections sect none lines) :
    line ∈ linesOf sections sect none (upsertTomlTable lines sect' (sect'.header :: rowLines)) := by
  by_cases found : Found lines sect'
  · obtain ⟨front, head, body, _, cut, spliced⟩ :=
      upsertTomlTable_found found (sect'.header :: rowLines)
    obtain ⟨ended, gone⟩ := @linesOf_table sections sect sect' head body saved cut.opens cut.inner
      (front.foldl (nextOwner sections) none)
    obtain ⟨ended', written⟩ := @linesOf_table sections sect sect' _ rowLines saved (trim_header sect')
      plain (front.foldl (nextOwner sections) none)
    rw [cut.split, ← List.cons_append, linesOf_append, linesOf_append, gone, ended] at member
    rw [spliced, List.append_assoc, linesOf_append, linesOf_append, written, ended']
    rwa [if_neg other] at member ⊢
  · rw [upsertTomlTable_absent found]
    cases lines with
    | nil => exact absurd member List.not_mem_nil
    | cons first more =>
      show line ∈ linesOf sections sect none (first :: more ++ [] :: sect'.header :: rowLines)
      rw [linesOf_append]
      exact List.mem_append_left _ member

theorem linesOf_upsert_own (saved : sect ∈ sections)
    (plain : ∀ line ∈ rowLines, startsTable line = false) (member : line ∈ rowLines) :
    line ∈ linesOf sections sect none (upsertTomlTable lines sect (sect.header :: rowLines)) := by
  have own (owner : Option AccessSection) : line ∈ linesOf sections sect owner (sect.header :: rowLines) := by
    obtain ⟨_, written⟩ := @linesOf_table sections sect sect _ rowLines saved (trim_header sect) plain owner
    rw [written, if_pos rfl]
    exact List.mem_cons_of_mem _ member
  by_cases found : Found lines sect
  · obtain ⟨_, _, _, _, _, spliced⟩ := upsertTomlTable_found found (sect.header :: rowLines)
    rw [spliced, linesOf_append, linesOf_append]
    exact List.mem_append_left _ (List.mem_append_right _ (own _))
  · rw [upsertTomlTable_absent found]
    cases lines with
    | nil => exact own none
    | cons first more =>
      show line ∈ linesOf sections sect none (first :: more ++ ([[]] ++ sect.header :: rowLines))
      rw [linesOf_append, linesOf_append]
      exact List.mem_append_right _ (List.mem_append_right _ (own _))

theorem plain_of_rendered {rows : List (Username × Cell)}
    (rendered : rows.mapM format.renderRow = some rowLines) :
    (∀ line ∈ rowLines, startsTable line = false) ∧
      ∀ row ∈ rows, ∃ line ∈ rowLines, format.renderRow row = some line := by
  induction rows generalizing rowLines with
  | nil =>
    cases rendered
    exact ⟨nofun, nofun⟩
  | cons row _ ih =>
    rw [List.mapM_cons] at rendered
    obtain ⟨line, first, rest⟩ := Option.bind_eq_some_iff.mp rendered
    obtain ⟨_, later, same⟩ := Option.bind_eq_some_iff.mp rest
    cases same
    obtain ⟨plain, each⟩ := ih later
    constructor
    · intro other member
      rcases List.mem_cons.mp member with rfl | inside
      · obtain ⟨text, _, rfl⟩ := Option.map_eq_some_iff.mp first
        exact startsTable_rowLine row.1 text
      · exact plain other inside
    · intro other member
      rcases List.mem_cons.mp member with rfl | inside
      · exact ⟨line, List.mem_cons_self, first⟩
      · obtain ⟨found, listed, written⟩ := each other inside
        exact ⟨found, List.mem_cons_of_mem _ listed, written⟩

variable {applied rest : List AccessSection} {out : List Line}

theorem saveFrom_cons (saved : saveFrom format content applied (sect :: rest) lines = some out) :
    (sect ∈ applied ∧ saveFrom format content applied rest lines = some out) ∨
      sect ∉ applied ∧ ¬ Found lines sect ∧ content.cells sect = [] ∧
        saveFrom format content (applied ++ [sect]) rest lines = some out ∨
      sect ∉ applied ∧ (Found lines sect ∨ content.cells sect ≠ []) ∧
        ∃ rowLines, (content.cells sect).mapM format.renderRow = some rowLines ∧
          saveFrom format content (applied ++ [sect]) rest
            (upsertTomlTable lines sect (sect.header :: rowLines)) = some out := by
  rw [saveFrom] at saved
  by_cases done : sect ∈ applied
  · rw [if_pos done] at saved
    exact Or.inl ⟨done, saved⟩
  · split_ifs at saved with skip
    · rw [Bool.and_eq_true, findTomlTableBounds_isNone, List.isEmpty_iff] at skip
      exact Or.inr (Or.inl ⟨done, skip.1, skip.2, saved⟩)
    · rw [Bool.and_eq_true, findTomlTableBounds_isNone, List.isEmpty_iff] at skip
      obtain ⟨_, renders, later⟩ := Option.bind_eq_some_iff.mp saved
      obtain ⟨rowLines, rows, rfl⟩ := Option.map_eq_some_iff.mp renders
      refine Or.inr (Or.inr ⟨done, ?_, rowLines, rows, later⟩)
      by_cases found : Found lines sect
      · exact Or.inl found
      · exact Or.inr fun none => skip ⟨found, none⟩

theorem saveFrom_keeps (saved : saveFrom format content applied rest lines = some out)
    (within : ∀ sect ∈ rest, sect ∈ sections) (done : sect ∈ applied)
    (member : line ∈ linesOf sections sect none lines) : line ∈ linesOf sections sect none out := by
  induction rest generalizing applied lines with
  | nil =>
    cases saved
    exact member
  | cons next _ ih =>
    obtain ⟨inSections, withinRest⟩ := List.forall_mem_cons.mp within
    have grown : sect ∈ applied ++ [next] := List.mem_append_left _ done
    rcases saveFrom_cons saved with ⟨_, later⟩ | ⟨_, _, _, later⟩ | ⟨fresh, _, rowLines, rendered, later⟩
    · exact ih later withinRest done member
    · exact ih later withinRest grown member
    · apply ih later withinRest grown
      apply linesOf_upsert inSections _ (plain_of_rendered rendered).1 member
      rintro rfl
      exact fresh done

theorem saveFrom_writes {row : Username × Cell}
    (saved : saveFrom format content applied rest lines = some out)
    (within : ∀ sect ∈ rest, sect ∈ sections) (listed : sect ∈ rest) (fresh : sect ∉ applied)
    (member : row ∈ content.cells sect) : ∃ line ∈ out, format.renderRow row = some line := by
  induction rest generalizing applied lines with
  | nil => exact absurd listed List.not_mem_nil
  | cons next _ ih =>
    obtain ⟨inSections, withinRest⟩ := List.forall_mem_cons.mp within
    have freshRest (other : sect ≠ next) : sect ∉ applied ++ [next] := by
      rw [List.mem_append, List.mem_singleton]
      exact fun done => done.elim fresh other
    rcases saveFrom_cons saved with ⟨done, later⟩ | ⟨_, _, none, later⟩ | ⟨_, _, rowLines, rendered, later⟩
    · have other : sect ≠ next := fun same => fresh (same ▸ done)
      exact ih later withinRest (List.mem_of_ne_of_mem other listed) fresh
    · have other : sect ≠ next := by
        rintro rfl
        rw [none] at member
        exact absurd member List.not_mem_nil
      exact ih later withinRest (List.mem_of_ne_of_mem other listed) (freshRest other)
    · by_cases same : sect = next
      · subst same
        obtain ⟨plain, each⟩ := plain_of_rendered rendered
        obtain ⟨line, inside, written⟩ := each row member
        have own := @linesOf_upsert_own sections sect line lines rowLines inSections plain inside
        have done : sect ∈ applied ++ [sect] := List.mem_append_right _ (List.mem_singleton.mpr rfl)
        exact ⟨line, mem_of_linesOf (saveFrom_keeps later withinRest done own), written⟩
      · exact ih later withinRest (List.mem_of_ne_of_mem same listed) (freshRest same)

variable {stmts : List (Stmt ν)}

theorem saveFrom_reads {present : AccessSection → Prop} {last : Reader ω}
    (saved : saveFrom format content applied rest lines = some out)
    (reads : Reads format files dir sections lines last stmts)
    (within : ∀ sect ∈ rest, sect ∈ sections) (apart : ∀ s ∈ stmts, NoClash s)
    (representable : ∀ sect ∈ rest, ∀ row ∈ content.cells sect, RowRepresentable row)
    (named : ∀ sect ∈ rest, ∀ row ∈ content.cells sect, row.1.name ≠ includeKey)
    (same : ∀ sect ∈ rest, sect ∉ applied → (Found lines sect ↔ present sect)) :
    ∃ last' after steps, Reads format files dir sections out last' after ∧
      Saved format content present steps stmts after ∧ steps.Nodup ∧
      ∀ sect, sect ∈ steps ↔ sect ∈ rest ∧ sect ∉ applied := by
  induction rest generalizing applied lines last stmts with
  | nil =>
    cases saved
    refine ⟨last, stmts, [], reads, .done stmts, List.nodup_nil, ?_⟩
    intro sect
    exact ⟨fun member => absurd member List.not_mem_nil, fun listed => absurd listed.1 List.not_mem_nil⟩
  | cons next rest ih =>
    obtain ⟨inSections, withinRest⟩ := List.forall_mem_cons.mp within
    obtain ⟨represents, representableRest⟩ := List.forall_mem_cons.mp representable
    obtain ⟨names, namedRest⟩ := List.forall_mem_cons.mp named
    obtain ⟨present_iff, sameRest⟩ := List.forall_mem_cons.mp same
    have grown {steps : List AccessSection} (fresh : next ∉ applied)
        (listed : ∀ sect, sect ∈ steps ↔ sect ∈ rest ∧ sect ∉ applied ++ [next]) :
        next ∉ steps ∧ ∀ sect, sect ∈ next :: steps ↔ sect ∈ next :: rest ∧ sect ∉ applied := by
      simp only [List.mem_append, List.mem_singleton, not_or] at listed
      refine ⟨fun member => ((listed next).mp member).2.2 rfl, fun sect => ?_⟩
      by_cases equal : sect = next
      · simp [equal, fresh]
      · simp [listed, equal]
    rcases saveFrom_cons saved with
      ⟨done, later⟩ | ⟨fresh, absent, none, later⟩ | ⟨fresh, written, rowLines, rendered, later⟩
    · obtain ⟨last', after, steps, reads', saved', nodup, listed⟩ := ih later reads withinRest apart
        representableRest namedRest sameRest
      refine ⟨last', after, steps, reads', saved', nodup, ?_⟩
      intro sect
      rw [listed, List.mem_cons]
      constructor
      · exact fun both => ⟨Or.inr both.1, both.2⟩
      · rintro ⟨rfl | inRest, notApplied⟩
        · exact absurd done notApplied
        · exact ⟨inRest, notApplied⟩
    · obtain ⟨last', after, steps, reads', saved', nodup, listed⟩ := ih later reads withinRest apart
        representableRest namedRest fun sect member notGrown =>
          sameRest sect member fun done => notGrown (List.mem_append_left _ done)
      obtain ⟨first, members⟩ := grown fresh listed
      refine ⟨last', after, next :: steps, reads', .step (.kept stmts ?_ none) saved',
        List.nodup_cons.mpr ⟨first, nodup⟩, members⟩
      rwa [← present_iff fresh]
    · obtain ⟨_, _, reads₁, rewritten⟩ := reads.upsert inSections apart
        rendered represents names written
      obtain ⟨last', after, steps, reads', saved', nodup, listed⟩ := ih later reads₁ withinRest
        (rewritten.noClash apart) representableRest namedRest fun sect member notGrown => by
          rw [List.mem_append, List.mem_singleton, not_or] at notGrown
          rw [found_upsert (Ne.symm notGrown.2) (plain_of_rendered rendered).1]
          exact sameRest sect member notGrown.1
      obtain ⟨first, members⟩ := grown fresh listed
      rw [propext (present_iff fresh)] at rewritten
      exact ⟨last', after, next :: steps, reads', .step rewritten saved',
        List.nodup_cons.mpr ⟨first, nodup⟩, members⟩

theorem load_eq_some :
    load format files dir lines = some stmts ↔
      ∃ c, transduce (readLine format.lex files dir) Context.start lines = some (c, stmts) ∧
        c.lexState = none ∧ Valid stmts := by
  rw [load, parse, preprocess_bind_read, Option.bind_eq_some_iff]
  constructor
  · rintro ⟨⟨c, _⟩, ran, checked⟩
    split_ifs at checked with valid
    cases checked
    exact ⟨c, ran, Option.isNone_iff_eq_none.mp valid.1, valid.2⟩
  · rintro ⟨c, ran, closed, valid⟩
    refine ⟨(c, stmts), ran, ?_⟩
    rw [if_pos ⟨Option.isNone_iff_eq_none.mpr closed, valid⟩]

theorem Reads.load_eq {last : Reader ω} (reads : Reads format files dir sections lines last stmts)
    (valid : Valid stmts) :
    load format files dir lines = some stmts := by
  have ran := reads.ran
  rw [transduce_watch] at ran
  obtain ⟨⟨c, _⟩, ranLines, same⟩ := Option.map_eq_some_iff.mp ran
  cases same
  exact load_eq_some.mpr ⟨c, ranLines, reads.closed, valid⟩

theorem Reads.of_load (loaded : load format files dir lines = some stmts)
    (splittable : Splittable format files dir sections lines) :
    ∃ last, Reads format files dir sections lines last stmts := by
  obtain ⟨c, ran, closed, _⟩ := load_eq_some.mp loaded
  refine ⟨(c, lines.foldl (nextOwner sections) none), ?_, closed, splittable⟩
  rw [transduce_watch, ran]
  rfl

structure Faithful (format : TomlFormat ν ω) (content : AccessContent) (sections : List AccessSection)
    (before after : List (Stmt ν)) : Prop where
  exact : ∀ sect ∈ sections,
    (decodeTable format sect.path after).Perm (decoded format (content.cells sect))
  unchanged : outside sections after = outside sections before

def RowUnreadable (format : TomlFormat ν ω) (files : FileSystem) (dir : Line) (row : Username × Cell) :
    Prop :=
  ∀ line path, format.renderRow row = some line → includePath line = some path → files dir path = none

theorem named_of_load {saved : List Line} {after : List (Stmt ν)}
    (written : saveAccessSectionsToDisk format content sections lines = some saved)
    (loaded : load format files dir saved = some after)
    (unreadable : ∀ sect ∈ sections, ∀ row ∈ content.cells sect, RowUnreadable format files dir row) :
    ∀ sect ∈ sections, ∀ row ∈ content.cells sect, row.1.name ≠ includeKey := by
  intro sect listed row member named
  obtain ⟨line, inside, rendered⟩ :=
    saveFrom_writes written (fun _ listed => listed) listed List.not_mem_nil member
  have missing := unreadable sect listed row member line
  obtain ⟨text, _, rfl⟩ := Option.map_eq_some_iff.mp rendered
  have directive := includePath_include named text
  obtain ⟨c, ran, _⟩ := load_eq_some.mp loaded
  obtain ⟨u, _, read⟩ := transduce_step_of_mem ran inside
  rw [readLine_unreadable directive (missing _ rendered directive)] at read
  cases read

theorem save_faithful_iff (format : TomlFormat ν ω) (files : FileSystem) (dir : Line)
    (content : AccessContent) (sections : List AccessSection) {text saved : List Line}
    {before : List (Stmt ν)} (loaded : load format files dir text = some before)
    (written : saveAccessSectionsToDisk format content sections text = some saved)
    (splittable : Splittable format files dir sections text)
    (representable : ∀ sect ∈ sections, ∀ row ∈ content.cells sect, RowRepresentable row)
    (unreadable : ∀ sect ∈ sections, ∀ row ∈ content.cells sect, RowUnreadable format files dir row) :
    (∃ after, load format files dir saved = some after ∧ Faithful format content sections before after) ↔
      (∀ sect ∈ sections, Fits format (Found text sect) sect (content.cells sect) before) ∧
        ∀ sect ∈ sections, ∀ row ∈ content.cells sect, row.1.name ≠ includeKey := by
  obtain ⟨_, _, _, compatible, apart⟩ := load_eq_some.mp loaded
  obtain ⟨_, reads⟩ := Reads.of_load loaded splittable
  have chain (named : ∀ sect ∈ sections, ∀ row ∈ content.cells sect, row.1.name ≠ includeKey) :
      ∃ last' after steps, Reads format files dir sections saved last' after ∧
        Saved format content (Found text) steps before after ∧ steps.Nodup ∧
        ∀ sect, sect ∈ steps ↔ sect ∈ sections ∧ sect ∉ [] :=
    saveFrom_reads written reads (fun _ listed => listed) apart representable named
      fun _ _ _ => Iff.rfl
  constructor
  · rintro ⟨after, loadedAfter, faithful⟩
    have named := named_of_load written loadedAfter unreadable
    obtain ⟨_, after', steps, reads', chained, nodup, listed⟩ := chain named
    obtain ⟨c, ran, _, compatible', _⟩ := load_eq_some.mp loadedAfter
    have same : after' = after := by
      have ran' := reads'.ran
      rw [transduce_watch, ran] at ran'
      cases ran'
      rfl
    subst same
    refine ⟨?_, named⟩
    intro sect member
    apply chained.fits nodup compatible compatible' _ (faithful.exact sect member)
    exact (listed sect).mpr ⟨member, List.not_mem_nil⟩
  · rintro ⟨fits, named⟩
    obtain ⟨_, after, steps, reads', chained, nodup, listed⟩ := chain named
    have within (sect : AccessSection) (step : sect ∈ steps) : sect ∈ sections := ((listed sect).mp step).1
    have valid : Valid after :=
      ⟨chained.pairwise nodup (fun sect step => fits sect (within sect step)) compatible apart,
        chained.noClash apart⟩
    refine ⟨after, reads'.load_eq valid, ?_, chained.outside_eq within⟩
    intro sect member
    have step : sect ∈ steps := (listed sect).mpr ⟨member, List.not_mem_nil⟩
    rw [chained.decode nodup compatible step (fits sect member)]

def alice : Username := ⟨"alice".toList, by decide⟩

def bob : Username := ⟨"bob".toList, by decide⟩

def zeroSecret : HexText := ⟨List.replicate 32 '0', by decide⟩

def noRows {α : Type} : Rows α := ⟨[], List.Pairwise.nil⟩

def twoUsers : AccessContent where
  users := ⟨[(alice, zeroSecret), (bob, zeroSecret)], by decide⟩
  userEnabled := ⟨[(bob, false)], by decide⟩
  userAdTags := noRows
  userMaxTcpConns := noRows
  userExpirations := noRows
  userDataQuota := noRows
  userRateLimits := ⟨[(alice, ⟨5, 7⟩)], by decide⟩
  userMaxUniqueIps := noRows

def noFiles : FileSystem := fun _ _ => none

def plainText : List Line :=
  ["[server]", "port = 443", "", "[access.users]", "carol = \"00000000000000000000000000000000\"",
    "[censorship] # fronting", "tls_domain = \"example.org\""].map String.toList

theorem plain_header_is_saved :
    ∃ before saved after, load PlainToml.format noFiles [] plainText = some before ∧
      saveAccessSectionsToDisk PlainToml.format twoUsers [.users, .userEnabled] plainText = some saved ∧
      load PlainToml.format noFiles [] saved = some after ∧
      Faithful PlainToml.format twoUsers [.users, .userEnabled] before after := by
  have suited : (load PlainToml.format noFiles [] plainText).any (fun before =>
      ∀ sect ∈ [AccessSection.users, .userEnabled],
        Fits PlainToml.format (Found plainText sect) sect (twoUsers.cells sect) before) = true := by
    decide +kernel
  obtain ⟨before, loaded, suits⟩ := (Option.any_eq_true _ _).mp suited
  obtain ⟨saved, written⟩ := Option.isSome_iff_exists.mp
    (show (saveAccessSectionsToDisk PlainToml.format twoUsers [.users, .userEnabled]
      plainText).isSome = true by decide +kernel)
  obtain ⟨after, loadedAfter, faithful⟩ := (save_faithful_iff PlainToml.format noFiles [] twoUsers
    [.users, .userEnabled] loaded written (by decide +kernel) (by decide +kernel)
    (fun _ _ _ _ _ _ _ _ => rfl)).mpr ⟨of_decide_eq_true suits, by decide +kernel⟩
  exact ⟨before, saved, after, loaded, written, loadedAfter, faithful⟩

def commentedText : List Line :=
  ["[server]", "port = 443", "", "[access.users] # proxy users",
    "alice = \"00000000000000000000000000000000\""].map String.toList

def subTableText : List Line :=
  ["[access.user_rate_limits.alice]", "up_bps = 5", "down_bps = 7"].map String.toList

/-- Behind a header with a comment the table is written a second time, and next to a sub-table a row of
the same name; neither text can be loaded again. -/
theorem spelled_header_is_doubled :
    (load PlainToml.format noFiles [] commentedText).isSome = true ∧
      (saveAccessSectionsToDisk PlainToml.format twoUsers [.users] commentedText).map
        (load PlainToml.format noFiles []) = some none ∧
      (load PlainToml.format noFiles [] subTableText).isSome = true ∧
      (saveAccessSectionsToDisk PlainToml.format twoUsers [.userRateLimits] subTableText).map
        (load PlainToml.format noFiles []) = some none := by
  decide +kernel

end Telemt.Config
