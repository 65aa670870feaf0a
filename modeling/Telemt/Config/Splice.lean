import Telemt.Config.Reading

namespace Telemt.Config
open Foundation

/-! # Replacing a table in a text -/

variable {ν ω : Type} (format : TomlFormat ν ω) (files : FileSystem) (dir : Line)
  (sections : List AccessSection)

abbrev Reader (ω : Type) := Context ω × Option AccessSection

def nextOwner (owner : Option AccessSection) (line : Line) : Option AccessSection :=
  if startsTable line then sections.find? (fun sect => trim line = sect.header) else owner

variable (r : Reader ω)

def watch (line : Line) : Option (Reader ω × List (Stmt ν)) :=
  (readLine format.lex files dir r.1 line).map fun read =>
    ((read.1, nextOwner sections r.2 line), read.2)

def assignsOnly (c : Context ω) (line : Line) : Bool :=
  match readLine format.lex files dir c line with
  | none => true
  | some read => read.2.all fun s => !s.isTable

def CleanCut (line : Line) : Prop :=
  if startsTable line then
    (r.2.isSome || (nextOwner sections r.2 line).isSome) = true → r.1.lexState.isNone = true
  else r.2.isSome = true → assignsOnly format files dir r.1 line = true

instance (line : Line) : Decidable (CleanCut format files dir sections r line) :=
  inferInstanceAs (Decidable (ite _ _ _))

variable (lines : List Line)

def Splittable : Prop :=
  Guarded (moves (watch format files dir sections)) (CleanCut format files dir sections)
    (Context.start, none) lines

instance : Decidable (Splittable format files dir sections lines) :=
  inferInstanceAs (Decidable (Guarded _ _ _ _))

structure Reads (lines : List Line) (last : Reader ω) (stmts : List (Stmt ν)) : Prop where
  ran : transduce (watch format files dir sections) (Context.start, none) lines = some (last, stmts)
  closed : last.1.lexState = none
  clean : Splittable format files dir sections lines

def rowStmt (base : Path) (row : Username × Cell) : Stmt ν :=
  .assign base [⟨row.1.name, none⟩] (format.cellValue row.2)

variable {format files dir sections}

theorem transduce_watch : transduce (watch format files dir sections) r lines =
      (transduce (readLine format.lex files dir) r.1 lines).map fun read =>
        ((read.1, lines.foldl (nextOwner sections) r.2), read.2) := by
  induction lines generalizing r with
  | nil => rfl
  | cons line lines ih =>
    rw [transduce, transduce, watch]
    cases readLine format.lex files dir r.1 line with
    | none => rfl
    | some read =>
      show (transduce (watch format files dir sections) (read.1, _) lines).map _ = _
      rw [ih, Option.map_map, Option.bind_some, Option.map_map]
      rfl

variable {r r' : Reader ω} {stmts : List (Stmt ν)}

theorem trail_watch {lines : List Line}
    (ran : transduce (watch format files dir sections) r lines = some (r', stmts)) :
    Trail r.1 stmts r'.1 := by
  rw [transduce_watch] at ran
  obtain ⟨_, reads, same⟩ := Option.map_eq_some_iff.mp ran
  cases same
  exact trail_lines reads

variable {line : Line}

theorem nextOwner_header {sect : AccessSection} (saved : sect ∈ sections)
    (opens : trim line = sect.header) (owner : Option AccessSection) :
    nextOwner sections owner line = some sect := by
  rw [nextOwner, if_pos (startsTable_of_trim_header opens)]
  cases found : sections.find? (fun sect => trim line = sect.header) with
  | none => exact absurd opens (by simpa using List.find?_eq_none.mp found sect saved)
  | some other =>
    have same : trim line = other.header := by simpa using List.find?_some found
    rw [AccessSection.header_injective (same.symm.trans opens)]

variable {c : Context ω}

theorem readLine_header {sect : AccessSection} {read} (top : c.lexState = none)
    (opens : trim line = sect.header) (ran : readLine format.lex files dir c line = some read) :
    read = ({ c with current := Context.resolve c.counts [] sect.keys },
      [.table (Context.resolve c.counts [] sect.keys)]) := by
  obtain ⟨_, _, _⟩ := c
  cases top
  rw [readLine_plain (includePath_bracket (startsTable_of_trim_header opens))] at ran
  obtain ⟨_, physical, rfl⟩ := Option.map_eq_some_iff.mp ran
  obtain ⟨lexed, lexes, rfl⟩ := Option.map_eq_some_iff.mp physical
  rw [format.lex_trimmed sect line lexed opens lexes]
  rfl

theorem readLine_written_header (top : c.lexState = none) (sect : AccessSection) :
    readLine format.lex files dir c sect.header =
      some ({ c with current := Context.resolve c.counts [] sect.keys },
        [.table (Context.resolve c.counts [] sect.keys)]) := by
  obtain ⟨_, _, _⟩ := c
  cases top
  rw [readLine_plain (includePath_bracket (startsTable_of_trim_header (trim_header sect))),
    readPhysical, format.lex_header sect]
  rfl

theorem resolve_section (trail : Trail Context.start stmts c) (noClash : ∀ s ∈ stmts, NoClash s)
    (sect : AccessSection) :
    Context.resolve c.counts [] sect.keys = sect.path := by
  have uncounted (path : Path) (key : Key)
      (meets : ∀ n, clash sect.path (path ++ [⟨key, some n⟩]) = true) :
      c.counts (path ++ [⟨key, none⟩]) = 0 := by
    by_contra counted
    rcases trail.counted path key counted with before | ⟨n, headed⟩
    · exact before rfl
    · have apart : clash sect.path (path ++ [⟨key, some n⟩]) = false := noClash _ headed sect
      rw [meets n] at apart
      cases apart
  have access : c.counts ([] ++ [⟨"access".toList, none⟩]) = 0 :=
    uncounted [] "access".toList fun n => by simp [clash, AccessSection.path, AccessSection.keys, plainPath]
  have table : c.counts ([⟨"access".toList, none⟩] ++ [⟨sect.key, none⟩]) = 0 :=
    uncounted [⟨"access".toList, none⟩] sect.key fun n => by
      simp [clash, AccessSection.path, AccessSection.keys, plainPath]
  rw [AccessSection.keys, Context.resolve, access, if_pos rfl]
  show Context.resolve c.counts [⟨"access".toList, none⟩] [sect.key] = _
  rw [Context.resolve, table, if_pos rfl]
  rfl

def RowRepresentable (row : Username × Cell) : Prop :=
  match row.2 with
  | .scalar _ => True
  | .rateLimit limit => Representable limit

instance (row : Username × Cell) : Decidable (RowRepresentable row) := by
  unfold RowRepresentable Representable
  split <;> infer_instance

variable {row : Username × Cell}

theorem lex_row (rendered : format.renderRow row = some line)
    (representable : RowRepresentable row) :
    format.lex none line = some (none, [.entry [row.1.name] (format.cellValue row.2)]) := by
  obtain ⟨user, cell⟩ := row
  obtain ⟨text, written, rfl⟩ := Option.map_eq_some_iff.mp rendered
  cases cell with
  | scalar value => exact format.lex_scalar user value text written
  | rateLimit limit =>
    cases written
    exact format.lex_rateLimit user limit representable

theorem readLine_row (top : c.lexState = none)
    (rendered : format.renderRow row = some line) (representable : RowRepresentable row)
    (named : row.1.name ≠ includeKey) :
    readLine format.lex files dir c line = some (c, [rowStmt format c.current row]) ∧
      startsTable line = false := by
  obtain ⟨_, _, _⟩ := c
  cases top
  have lexed := lex_row rendered representable
  obtain ⟨text, _, rfl⟩ := Option.map_eq_some_iff.mp rendered
  refine ⟨?_, startsTable_rowLine row.1 text⟩
  rw [readLine_plain (includePath_rowLine named text), readPhysical, lexed]
  rfl

theorem watch_row (top : r.1.lexState = none)
    (rendered : format.renderRow row = some line) (representable : RowRepresentable row)
    (named : row.1.name ≠ includeKey) :
    watch format files dir sections r line = some (r, [rowStmt format r.1.current row]) ∧
      CleanCut format files dir sections r line := by
  obtain ⟨read, plain⟩ := @readLine_row _ _ format files dir line r.1 row top rendered representable named
  constructor
  · rw [watch, read, nextOwner, plain]
    rfl
  · rw [CleanCut, plain]
    intro _
    rw [assignsOnly, read]
    rfl

theorem watch_rows {rows : List (Username × Cell)} {lines : List Line}
    (top : r.1.lexState = none) (rendered : rows.mapM format.renderRow = some lines)
    (representable : ∀ row ∈ rows, RowRepresentable row) (named : ∀ row ∈ rows, row.1.name ≠ includeKey) :
    transduce (watch format files dir sections) r lines =
        some (r, rows.map (rowStmt format r.1.current)) ∧
      Guarded (moves (watch format files dir sections)) (CleanCut format files dir sections) r lines := by
  induction rows generalizing lines with
  | nil =>
    cases rendered
    exact ⟨rfl, trivial⟩
  | cons row _ ih =>
    rw [List.mapM_cons] at rendered
    obtain ⟨line, first, rest⟩ := Option.bind_eq_some_iff.mp rendered
    obtain ⟨_, later, same⟩ := Option.bind_eq_some_iff.mp rest
    cases same
    obtain ⟨read, clean⟩ := @watch_row _ _ format files dir sections r line row top first
      (representable row List.mem_cons_self) (named row List.mem_cons_self)
    obtain ⟨ran, guarded⟩ := ih later
      (fun other member => representable other (List.mem_cons_of_mem row member))
      (fun other member => named other (List.mem_cons_of_mem row member))
    refine ⟨?_, clean, ?_⟩
    · rw [transduce, read, Option.bind_some, ran]
      rfl
    · intro next moved
      rw [moves, read] at moved
      cases moved
      exact guarded

theorem watch_table {sect : AccessSection} {rows : List (Username × Cell)}
    {lines : List Line} (top : r.1.lexState = none)
    (plain : Context.resolve r.1.counts [] sect.keys = sect.path)
    (rendered : rows.mapM format.renderRow = some lines)
    (representable : ∀ row ∈ rows, RowRepresentable row) (named : ∀ row ∈ rows, row.1.name ≠ includeKey) :
    transduce (watch format files dir sections) r (sect.header :: lines) =
        some (({ r.1 with current := sect.path }, nextOwner sections r.2 sect.header),
          .table sect.path :: rows.map (rowStmt format sect.path)) ∧
      Guarded (moves (watch format files dir sections)) (CleanCut format files dir sections) r
        (sect.header :: lines) := by
  have read : watch format files dir sections r sect.header =
      some (({ r.1 with current := sect.path }, nextOwner sections r.2 sect.header),
        [.table sect.path]) := by
    rw [watch, readLine_written_header top sect, plain]
    rfl
  have bracket := startsTable_of_trim_header (trim_header sect)
  obtain ⟨ran, guarded⟩ := @watch_rows _ _ format files dir sections
    ({ r.1 with current := sect.path }, nextOwner sections r.2 sect.header) rows lines top rendered
    representable named
  refine ⟨?_, ?_, ?_⟩
  · rw [transduce, read, Option.bind_some, ran]
    rfl
  · rw [CleanCut, if_pos bracket, top]
    exact fun _ => rfl
  · intro next moved
    rw [moves, read] at moved
    cases moved
    exact guarded

theorem watch_body {body : List Line} (owned : r.2.isSome = true)
    (inner : ∀ line ∈ body, startsTable line = false)
    (clean : Guarded (moves (watch format files dir sections)) (CleanCut format files dir sections)
      r body)
    (ran : transduce (watch format files dir sections) r body = some (r', stmts)) :
    (∀ s ∈ stmts, s.isTable = false) ∧ r'.2 = r.2 := by
  induction body generalizing r stmts with
  | nil =>
    cases ran
    exact ⟨nofun, rfl⟩
  | cons line _ ih =>
    obtain ⟨_, _, rest, moved, later, rfl⟩ := transduce_cons_eq_some.mp ran
    obtain ⟨here, guarded⟩ := clean
    have plain := inner line List.mem_cons_self
    obtain ⟨read, reads, same⟩ := Option.map_eq_some_iff.mp moved
    obtain ⟨rfl, rfl⟩ := Prod.mk.inj same
    have owner : nextOwner sections r.2 line = r.2 := by
      rw [nextOwner, plain]
      rfl
    rw [owner] at later moved
    rw [CleanCut, plain] at here
    have assigns : read.2.all (fun s => !s.isTable) = true := by
      have only := here owned
      rwa [assignsOnly, reads] at only
    obtain ⟨entries, kept⟩ := @ih (read.1, r.2) rest owned
      (fun other member => inner other (List.mem_cons_of_mem line member))
      (guarded _ (by rw [moves, moved]; rfl)) later
    refine ⟨?_, kept⟩
    intro s member
    rcases List.mem_append.mp member with emitted | emitted
    · simpa using List.all_eq_true.mp assigns s emitted
    · exact entries s emitted

theorem readLine_bracket {c' : Context ω} (top : c.lexState = none)
    (bracket : startsTable line = true)
    (ran : readLine format.lex files dir c line = some (c', stmts)) :
    stmts = [.table c'.current] := by
  obtain ⟨_, _, _⟩ := c
  cases top
  rw [readLine_plain (includePath_bracket bracket)] at ran
  obtain ⟨_, physical, same⟩ := Option.map_eq_some_iff.mp ran
  obtain ⟨⟨_, _⟩, lexes, rfl⟩ := Option.map_eq_some_iff.mp physical
  obtain ⟨_, item, rfl, other⟩ := format.lex_bracket line _ bracket lexes
  cases item with
  | header keys | arrayHeader parents last => cases same; rfl
  | entry => cases other

theorem headed_of_bracket {rest : List Line} (top : r.1.lexState = none)
    (closes : ∀ line ∈ rest.head?, startsTable line = true)
    (ran : transduce (watch format files dir sections) r rest = some (r', stmts)) {base key : Path}
    {value : ν} (member : Stmt.assign base key value ∈ stmts) : Stmt.table base ∈ stmts := by
  cases rest with
  | nil =>
    cases ran
    exact absurd member List.not_mem_nil
  | cons line =>
    obtain ⟨_, _, _, moved, ranMore, rfl⟩ := transduce_cons_eq_some.mp ran
    obtain ⟨⟨c, _⟩, reads, same⟩ := Option.map_eq_some_iff.mp moved
    cases same
    have header := readLine_bracket top (closes line rfl) reads
    rcases List.mem_append.mp member with early | late
    · rw [header] at early
      cases List.mem_singleton.mp early
    · rcases (trail_watch ranMore).bases base key value late with rfl | headed
      · rw [header]
        exact List.mem_append_left _ (List.mem_singleton.mpr rfl)
      · exact List.mem_append_right _ headed

section Steps
variable {lines : List Line} {last : Reader ω} {stmts : List (Stmt ν)} {sect : AccessSection}
  {rows : List (Username × Cell)} {rowLines : List Line}

/-- How saving a section changes the statements of a text in which its header was found or not. -/
inductive Rewritten (format : TomlFormat ν ω) (found : Prop) (sect : AccessSection)
    (rows : List (Username × Cell)) : List (Stmt ν) → List (Stmt ν) → Prop
  | replaced (before old after : List (Stmt ν)) (present : found)
      (inner : ∀ s ∈ old, ∃ key value, s = .assign sect.path key value)
      (headed : ∀ key value, Stmt.assign sect.path key value ∈ before ++ after →
        Stmt.table sect.path ∈ before ++ after) :
      Rewritten format found sect rows (before ++ .table sect.path :: (old ++ after))
        (before ++ .table sect.path :: (rows.map (rowStmt format sect.path) ++ after))
  | appended (stmts : List (Stmt ν)) (absent : ¬ found) (some : rows ≠ []) :
      Rewritten format found sect rows stmts
        (stmts ++ .table sect.path :: rows.map (rowStmt format sect.path))
  | kept (stmts : List (Stmt ν)) (absent : ¬ found) (none : rows = []) :
      Rewritten format found sect rows stmts stmts

theorem Reads.replace {front body rest : List Line} {head : Line}
    (reads : Reads format files dir sections lines last stmts) (saved : sect ∈ sections)
    (noClash : ∀ s ∈ stmts, NoClash s) (cut : Cut sect lines front head body rest)
    (rendered : rows.mapM format.renderRow = some rowLines)
    (representable : ∀ row ∈ rows, RowRepresentable row) (named : ∀ row ∈ rows, row.1.name ≠ includeKey) :
    ∃ after, Reads format files dir sections (front ++ sect.header :: rowLines ++ rest) last after ∧
      Rewritten format (Found lines sect) sect rows stmts after := by
  obtain ⟨ran, closed, clean⟩ := reads
  have present := cut.found
  rw [cut.split] at ran
  rw [Splittable, cut.split] at clean
  obtain ⟨r, before, _, ranFront, ranTable, rfl⟩ := transduce_append_eq_some.mp ran
  obtain ⟨cleanFront, cleanHead, cleanTable⟩ := (guarded_append (runFrom_moves ranFront)).mp clean
  obtain ⟨opened, _, _, movedHead, ranInside, rfl⟩ := transduce_cons_eq_some.mp ranTable
  have movesHead : moves (watch format files dir sections) r head = some opened := by
    rw [moves, movedHead]
    rfl
  obtain ⟨ended, old, after, ranBody, ranRest, rfl⟩ := transduce_append_eq_some.mp ranInside
  obtain ⟨cleanBody, cleanRest⟩ :=
    (guarded_append (runFrom_moves ranBody)).mp (cleanTable opened movesHead)
  have owner := nextOwner_header saved cut.opens r.2
  have top : r.1.lexState = none := by
    rw [CleanCut, if_pos (startsTable_of_trim_header cut.opens), owner, Option.isSome_some,
      Bool.or_true] at cleanHead
    exact Option.isNone_iff_eq_none.mp (cleanHead rfl)
  have plain : Context.resolve r.1.counts [] sect.keys = sect.path :=
    resolve_section (trail_watch ranFront) (fun s member => noClash s (List.mem_append_left _ member)) sect
  obtain ⟨_, readsHead, same⟩ := Option.map_eq_some_iff.mp movedHead
  rw [readLine_header top cut.opens readsHead, plain, owner] at same
  obtain ⟨rfl, rfl⟩ := Prod.mk.inj same
  obtain ⟨entries, keptOwner⟩ := watch_body rfl cut.inner cleanBody ranBody
  have trail := trail_watch ranBody
  obtain ⟨keptCurrent, keptCounts⟩ := trail.still entries
  have endedTop : ended.1.lexState = none := by
    cases rest with
    | nil =>
      cases ranRest
      exact closed
    | cons line =>
      have cleanLine := cleanRest.1
      rw [CleanCut, if_pos (cut.closes line rfl), keptOwner, Option.isSome_some, Bool.true_or]
        at cleanLine
      exact Option.isNone_iff_eq_none.mp (cleanLine rfl)
  have sameReader : ended = ({ r.1 with current := sect.path }, some sect) := by
    obtain ⟨⟨_, _, _⟩, endOwner⟩ := ended
    obtain ⟨⟨_, _, _⟩, startOwner⟩ := r
    cases top
    cases endedTop
    cases keptCurrent
    cases keptCounts
    cases keptOwner
    rfl
  obtain ⟨ranWritten, cleanWritten⟩ :=
    @watch_table _ _ format files dir sections r sect rows rowLines top plain rendered representable named
  rw [nextOwner_header saved (trim_header sect), ← sameReader] at ranWritten
  refine ⟨before ++ (.table sect.path :: (rows.map (rowStmt format sect.path) ++ after)),
    ⟨?_, closed, ?_⟩, ?_⟩
  · rw [List.append_assoc, transduce_append ranFront, transduce_append ranWritten, ranRest]
    rfl
  · rw [Splittable, List.append_assoc, guarded_append (runFrom_moves ranFront),
      guarded_append (runFrom_moves ranWritten)]
    exact ⟨cleanFront, cleanWritten, cleanRest⟩
  · refine .replaced before old after present (trail.entries entries) ?_
    intro key value member
    rcases List.mem_append.mp member with early | late
    · rcases (trail_watch ranFront).bases _ key value early with root | headed
      · cases root
      · exact List.mem_append_left _ headed
    · exact List.mem_append_right _ (headed_of_bracket endedTop cut.closes ranRest late)

section
variable (reads : Reads format files dir sections lines last stmts)
include reads

theorem Reads.blank : Reads format files dir sections (lines ++ [[]]) last stmts := by
  obtain ⟨ran, closed, clean⟩ := reads
  have read : readLine format.lex files dir last.1 [] = some (last.1, []) := by
    obtain ⟨⟨_, _, _⟩, owner⟩ := last
    cases closed
    rw [readLine_plain rfl, readPhysical, format.lex_blank]
    rfl
  have watched : watch format files dir sections last [] = some (last, []) := by
    rw [watch, read]
    rfl
  refine ⟨?_, closed, ?_⟩
  · rw [transduce_append ran, transduce, watched]
    show some (last, stmts ++ ([] ++ [])) = _
    rw [List.append_nil, List.append_nil]
  · rw [Splittable, guarded_append (runFrom_moves ran)]
    refine ⟨clean, ?_, fun _ _ => trivial⟩
    intro _
    rw [assignsOnly, read]
    rfl

theorem Reads.append (noClash : ∀ s ∈ stmts, NoClash s)
    (rendered : rows.mapM format.renderRow = some rowLines)
    (representable : ∀ row ∈ rows, RowRepresentable row)
    (named : ∀ row ∈ rows, row.1.name ≠ includeKey) (sect : AccessSection) :
    ∃ last', Reads format files dir sections (lines ++ sect.header :: rowLines) last'
      (stmts ++ .table sect.path :: rows.map (rowStmt format sect.path)) := by
  obtain ⟨ran, closed, clean⟩ := reads
  have plain : Context.resolve last.1.counts [] sect.keys = sect.path :=
    resolve_section (trail_watch ran) noClash sect
  obtain ⟨ranWritten, cleanWritten⟩ :=
    @watch_table _ _ format files dir sections last sect rows rowLines closed plain rendered
      representable named
  refine ⟨({ last.1 with current := sect.path }, nextOwner sections last.2 sect.header), ?_, closed, ?_⟩
  · rw [transduce_append ran, ranWritten]
    rfl
  · rw [Splittable, guarded_append (runFrom_moves ran)]
    exact ⟨clean, cleanWritten⟩

theorem Reads.upsert (saved : sect ∈ sections) (noClash : ∀ s ∈ stmts, NoClash s)
    (rendered : rows.mapM format.renderRow = some rowLines)
    (representable : ∀ row ∈ rows, RowRepresentable row)
    (named : ∀ row ∈ rows, row.1.name ≠ includeKey) (written : Found lines sect ∨ rows ≠ []) :
    ∃ last' after, Reads format files dir sections
        (upsertTomlTable lines sect (sect.header :: rowLines)) last' after ∧
      Rewritten format (Found lines sect) sect rows stmts after := by
  by_cases found : Found lines sect
  · obtain ⟨_, _, _, _, cut, spliced⟩ := upsertTomlTable_found found (sect.header :: rowLines)
    obtain ⟨after, reads', rewritten⟩ := reads.replace saved noClash cut rendered representable named
    rw [spliced]
    exact ⟨last, after, reads', rewritten⟩
  · have some : rows ≠ [] := written.resolve_left found
    rw [upsertTomlTable_absent found]
    cases lines with
    | nil =>
      obtain ⟨last', reads'⟩ := reads.append noClash rendered representable named sect
      exact ⟨last', _, reads', .appended stmts found some⟩
    | cons =>
      obtain ⟨last', reads'⟩ := reads.blank.append noClash rendered representable named sect
      rw [List.append_assoc] at reads'
      exact ⟨last', _, reads', .appended stmts found some⟩

end

end Steps

end Telemt.Config
