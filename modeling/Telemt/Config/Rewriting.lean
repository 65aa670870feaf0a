import Telemt.Config.Splice

namespace Telemt.Config

/-! # What saving does to the statements -/

variable {ν ω : Type} {format : TomlFormat ν ω} {sect sect' : AccessSection}

def Owned (sect : AccessSection) (s : Stmt ν) : Prop :=
  s = .table sect.path ∨ ∃ key value, s = .assign sect.path key value

instance (s : Stmt ν) : Decidable (Owned sect s) :=
  match s with
  | .table path => decidable_of_iff (path = sect.path)
      ⟨fun same => Or.inl (same ▸ rfl), by
        rintro (same | ⟨_, _, same⟩)
        · exact Stmt.table.inj same
        · cases same⟩
  | .assign base key value => decidable_of_iff (base = sect.path)
      ⟨fun same => Or.inr ⟨key, value, same ▸ rfl⟩, by
        rintro (same | ⟨_, _, same⟩)
        · cases same
        · exact (Stmt.assign.inj same).1⟩

def Touches (sect : AccessSection) (s : Stmt ν) : Prop :=
  sect.path <+: s.path ∨ s.isTable = false ∧ s.path <+: sect.path

instance (s : Stmt ν) : Decidable (Touches sect s) := inferInstanceAs (Decidable (_ ∨ _))

def touching (sect : AccessSection) (stmts : List (Stmt ν)) : List (Stmt ν) :=
  stmts.filter fun s => Touches sect s

def outside (sections : List AccessSection) (stmts : List (Stmt ν)) : List (Stmt ν) :=
  stmts.filter fun s => ∀ sect ∈ sections, ¬ sect.path <+: s.path

theorem path_length (sect : AccessSection) : sect.path.length = 2 := rfl

variable {path : Path}

theorem section_unique (first : sect.path <+: path) (second : sect'.path <+: path) :
    sect = sect' := by
  have within := List.prefix_of_prefix_length_le first second (by rw [path_length, path_length])
  exact AccessSection.path_injective (within.eq_of_length (by rw [path_length, path_length]))

variable {s : Stmt ν}

theorem Owned.inside (owned : Owned sect s) : sect.path <+: s.path := by
  rcases owned with rfl | ⟨key, value, rfl⟩
  · exact List.prefix_rfl
  · exact List.prefix_append _ _

theorem Owned.not_touches (owned : Owned sect s) (other : sect ≠ sect') :
    ¬ Touches sect' s := by
  rintro (inside | ⟨_, leading⟩)
  · exact other (section_unique owned.inside inside)
  · exact other (section_unique (owned.inside.trans leading) List.prefix_rfl)

theorem owned_rowStmt (row : Username × Cell) : Owned sect (rowStmt format sect.path row) :=
  Or.inr ⟨_, _, rfl⟩

variable {found : Prop} {rows : List (Username × Cell)} {before after : List (Stmt ν)}

variable {stmts : List (Stmt ν)}

theorem filter_owned {p : Stmt ν → Bool} (hidden : ∀ s, Owned sect s → p s = false)
    (owned : ∀ s ∈ stmts, Owned sect s) : stmts.filter p = [] := by
  apply List.filter_eq_nil_iff.mpr
  intro s member
  rw [hidden s (owned s member)]
  exact Bool.false_ne_true

theorem owned_written (rows : List (Username × Cell)) :
    ∀ s ∈ .table sect.path :: rows.map (rowStmt format sect.path), Owned sect s := by
  intro s member
  rcases List.mem_cons.mp member with rfl | assigned
  · exact Or.inl rfl
  · obtain ⟨row, _, rfl⟩ := List.mem_map.mp assigned
    exact owned_rowStmt row

section
variable (rewritten : Rewritten format found sect rows before after)
include rewritten

theorem Rewritten.filter_eq {p : Stmt ν → Bool} (hidden : ∀ s, Owned sect s → p s = false) :
    after.filter p = before.filter p := by
  cases rewritten with
  | replaced _ old _ _ inner =>
    have gone : (Stmt.table sect.path :: old).filter p = [] := by
      apply filter_owned hidden
      intro s member
      rcases List.mem_cons.mp member with rfl | assigned
      · exact Or.inl rfl
      · exact Or.inr (inner s assigned)
    have unseen : (Stmt.table sect.path :: rows.map (rowStmt format sect.path)).filter p = [] :=
      filter_owned hidden (owned_written rows)
    rw [← List.cons_append, ← List.cons_append, List.filter_append, List.filter_append,
      List.filter_append, List.filter_append, gone, unseen]
  | appended stmts absent =>
    rw [List.filter_append, filter_owned hidden (owned_written rows), List.append_nil]
  | kept => rfl

theorem Rewritten.outside_eq {sections : List AccessSection} (saved : sect ∈ sections) :
    outside sections after = outside sections before := by
  apply rewritten.filter_eq
  intro s owned
  simp only [decide_eq_false_iff_not, not_forall, not_not]
  exact ⟨sect, saved, owned.inside⟩

theorem Rewritten.touching_eq (other : sect ≠ sect') :
    touching sect' after = touching sect' before := by
  apply rewritten.filter_eq
  intro s owned
  exact decide_eq_false (owned.not_touches other)

end

theorem below_append (path rest : Path) : (path ++ rest).dropPrefix? path = some rest :=
  List.dropPrefix?_append_of_beq rest (beq_self_eq_true path)

theorem below_eq_some {whole rest : Path} :
    whole.dropPrefix? path = some rest ↔ whole = path ++ rest := by
  rw [List.dropPrefix?_eq_some_iff]
  constructor
  · rintro ⟨_, rfl, same⟩
    rw [eq_of_beq same]
  · rintro rfl
    exact ⟨path, rfl, beq_self_eq_true path⟩

theorem below_eq_none {whole : Path} (apart : ¬ path <+: whole) :
    whole.dropPrefix? path = none := by
  cases below : whole.dropPrefix? path with
  | none => rfl
  | some rest => exact absurd ⟨rest, (below_eq_some.mp below).symm⟩ apart

theorem entriesOf_untouched (untouched : ¬ Touches sect s) :
    entriesOf format sect.path s = [] := by
  have apart : ¬ sect.path <+: s.path := fun inside => untouched (Or.inl inside)
  unfold entriesOf
  rw [below_eq_none apart]
  cases s with
  | table path => rfl
  | assign base key =>
    have elsewhere : ¬ base ++ key <+: sect.path := fun leading => untouched (Or.inr ⟨rfl, leading⟩)
    rw [leadingRows, below_eq_none elsewhere]

theorem entriesOf_below {seg : Seg} {rest : Path}
    (inside : s.path = sect.path ++ seg :: rest) :
    entriesOf format sect.path s = [(seg.key, if rest.isEmpty then s.value else none)] := by
  unfold entriesOf
  rw [below_eq_some.mpr inside]

theorem entriesOf_table : entriesOf format sect.path (.table sect.path) = [] := by
  unfold entriesOf
  rw [show (Stmt.table sect.path : Stmt ν).path = sect.path ++ [] from (List.append_nil _).symm,
    below_append]
  rfl

theorem entriesOf_row (row : Username × Cell) :
    entriesOf format sect.path (rowStmt format sect.path row) =
      [(row.1.name, some (format.cellValue row.2))] :=
  @entriesOf_below _ _ format sect (rowStmt format sect.path row) ⟨row.1.name, none⟩ [] rfl

def decoded (format : TomlFormat ν ω) (rows : List (Username × Cell)) : List (Key × Option ν) :=
  rows.map fun row => (row.1.name, some (format.cellValue row.2))

theorem decodeTable_written (rows : List (Username × Cell)) :
    decodeTable format sect.path (.table sect.path :: rows.map (rowStmt format sect.path)) =
      decoded format rows := by
  rw [decodeTable, List.flatMap_cons, entriesOf_table, List.nil_append, decoded]
  induction rows with
  | nil => rfl
  | cons _ _ ih => rw [List.map_cons, List.flatMap_cons, entriesOf_row, ih, List.map_cons]; rfl

theorem decodeTable_untouched (untouched : ∀ s ∈ stmts, ¬ Touches sect s) :
    decodeTable format sect.path stmts = [] := by
  rw [decodeTable, List.flatMap_eq_nil_iff]
  intro s member
  exact entriesOf_untouched (untouched s member)

theorem decodeTable_append (first second : List (Stmt ν)) :
    decodeTable format sect.path (first ++ second) =
      decodeTable format sect.path first ++ decodeTable format sect.path second :=
  List.flatMap_append

theorem decodeTable_touching (stmts : List (Stmt ν)) :
    decodeTable format sect.path (touching sect stmts) = decodeTable format sect.path stmts := by
  induction stmts with
  | nil => rfl
  | cons s stmts ih =>
    by_cases touches : Touches sect s
    · have kept : touching sect (s :: stmts) = s :: touching sect stmts :=
        List.filter_cons_of_pos (by simpa using touches)
      rw [kept]
      exact congrArg (entriesOf format sect.path s ++ ·) ih
    · have dropped : touching sect (s :: stmts) = touching sect stmts :=
        List.filter_cons_of_neg (by simpa using touches)
      rw [dropped, ih, decodeTable, decodeTable, List.flatMap_cons, entriesOf_untouched touches,
        List.nil_append]

theorem clash_extend {other : Path} (apart : ¬ path <+: other) (rest : Path) :
    clash (path ++ rest) other = clash path other := by
  induction path generalizing other with
  | nil => exact absurd List.nil_prefix apart
  | cons seg _ ih =>
    cases other with
    | nil => rfl
    | cons seg' =>
      by_cases same : seg = seg'
      · subst same
        rw [List.cons_append, clash, clash, if_pos rfl, if_pos rfl]
        exact ih fun inside => apart (List.cons_prefix_cons.mpr ⟨rfl, inside⟩)
      · rw [List.cons_append, clash, clash, if_neg same, if_neg same]

theorem clash_common (path first second : Path) :
    clash (path ++ first) (path ++ second) = clash first second := by
  induction path with
  | nil => rfl
  | cons _ _ ih => rw [List.cons_append, List.cons_append, clash, if_pos rfl, ih]

theorem compatible_row (beside : Compatible (.table path) s) (apart : ¬ path <+: s.path) (seg : Seg)
    (value : ν) : Compatible (.assign path [seg] value) s := by
  cases s with
  | table =>
    refine ⟨fun inside => apart ((List.prefix_append _ _).trans inside), fun inside => apart inside.1, ?_⟩
    rw [clash_comm]
    exact (clash_extend apart [seg]).trans beside.2
  | assign =>
    obtain ⟨notLeading, _, noClash⟩ := beside
    refine ⟨fun inside => apart ((List.prefix_append _ _).trans inside), ?_, ?_⟩
    · intro leading
      rcases List.prefix_concat_iff.mp leading with whole | shorter
      · exact apart (by rw [Stmt.path, whole]; exact List.prefix_append _ _)
      · exact notLeading shorter
    · exact (clash_extend apart [seg]).trans noClash

theorem compatible_own_row (path : Path) (seg : Seg) (value : ν) :
    Compatible (.table path) (.assign path [seg] value) := by
  refine ⟨?_, fun within => within.2.1 rfl, clash_self_append path [seg]⟩
  intro longer
  have length := longer.length_le
  rw [List.length_append, List.length_singleton] at length
  omega

theorem compatible_rows (path : Path) {key key' : Key} (other : key ≠ key') (value value' : ν) :
    Compatible (.assign path [⟨key, none⟩] value) (.assign path [⟨key', none⟩] value') := by
  have differ (a b : Key) (distinct : a ≠ b) :
      ¬ path ++ [⟨a, none⟩] <+: path ++ [⟨b, none⟩] := by
    intro leading
    have same := (List.prefix_append_right_inj path).mp leading
    rw [List.cons_prefix_cons] at same
    exact distinct (congrArg Seg.key same.1)
  refine ⟨differ key key' other, differ key' key (Ne.symm other), ?_⟩
  rw [clash_common, clash, if_neg fun same => other (congrArg Seg.key same)]
  exact Bool.and_false _

theorem pairwise_written {others : List (Stmt ν)}
    (distinct : rows.Pairwise fun row row' => row.1.name ≠ row'.1.name)
    (compatible : others.Pairwise Compatible)
    (beside : ∀ s ∈ others, Compatible (.table sect.path) s ∧ ¬ sect.path <+: s.path) :
    ((.table sect.path :: rows.map (rowStmt format sect.path)) ++ others).Pairwise Compatible := by
  rw [List.pairwise_append, List.pairwise_cons]
  refine ⟨⟨?_, ?_⟩, compatible, ?_⟩
  · intro s member
    obtain ⟨row, _, rfl⟩ := List.mem_map.mp member
    exact compatible_own_row _ _ _
  · rw [List.pairwise_map]
    exact distinct.imp fun other => compatible_rows _ other _ _
  · intro s member t later
    obtain ⟨header, apart⟩ := beside t later
    rcases List.mem_cons.mp member with rfl | assigned
    · exact header
    · obtain ⟨_, _, rfl⟩ := List.mem_map.mp assigned
      exact compatible_row header apart _ _

theorem noClash_written (rows : List (Username × Cell)) :
    ∀ s ∈ .table sect.path :: rows.map (rowStmt format sect.path), NoClash s := by
  intro s member sect'
  rcases List.mem_cons.mp member with rfl | assigned
  · exact sect'.clash_path sect
  · obtain ⟨row, _, rfl⟩ := List.mem_map.mp assigned
    show clash sect'.path (sect.path ++ [⟨row.1.name, none⟩]) = false
    by_cases same : sect = sect'
    · rw [same]
      exact clash_self_append _ _
    · rw [clash_comm, clash_extend]
      · exact sect.clash_path sect'
      · exact fun inside => same (section_unique inside List.prefix_rfl)

/-- The text suits the way a section is saved. Where its header was found, the table has no other
statements than the header and what it assigns. Where it was not found, the table is empty if there is
nothing to write, and otherwise the text says nothing about it. -/
@[mk_iff]
structure Fits (format : TomlFormat ν ω) (found : Prop) (sect : AccessSection)
    (rows : List (Username × Cell)) (stmts : List (Stmt ν)) : Prop where
  replaced : found → ∀ s ∈ stmts, sect.path <+: s.path → Owned sect s
  appended : ¬ found → rows ≠ [] → ∀ s ∈ stmts, ¬ Touches sect s
  kept : ¬ found → rows = [] → decodeTable format sect.path stmts = []

instance [Decidable found] [DecidableEq ν] (stmts : List (Stmt ν)) :
    Decidable (Fits format found sect rows stmts) :=
  decidable_of_iff' _ (fits_iff format found sect rows stmts)

theorem mem_touching :
    s ∈ touching sect stmts ↔ s ∈ stmts ∧ Touches sect s := by
  rw [touching, List.mem_filter, decide_eq_true_eq]

theorem Fits.congr {stmts' : List (Stmt ν)} (same : touching sect stmts' = touching sect stmts)
    (fits : Fits format found sect rows stmts) : Fits format found sect rows stmts' where
  replaced := by
    intro present s member inside
    have touched : s ∈ touching sect stmts' := mem_touching.mpr ⟨member, Or.inl inside⟩
    rw [same] at touched
    exact fits.replaced present s (mem_touching.mp touched).1 inside
  appended := by
    intro absent some s member touches
    have touched : s ∈ touching sect stmts' := mem_touching.mpr ⟨member, touches⟩
    rw [same] at touched
    exact fits.appended absent some s (mem_touching.mp touched).1 touches
  kept := by
    intro absent none
    rw [← decodeTable_touching, same, decodeTable_touching]
    exact fits.kept absent none

theorem perm_table (header : Stmt ν) (front inner rest : List (Stmt ν)) :
    (front ++ header :: (inner ++ rest)).Perm (header :: inner ++ (front ++ rest)) := by
  refine List.perm_middle.trans (List.Perm.cons header ?_)
  exact List.perm_append_comm_assoc front inner rest

variable {front old rest : List (Stmt ν)}

theorem header_beside
    (once : (touching sect (front ++ .table sect.path :: (old ++ rest))).Pairwise Compatible)
    (member : s ∈ front ++ rest) (touches : Touches sect s) : Compatible (.table sect.path) s := by
  have reordered : (touching sect (.table sect.path :: (old ++ (front ++ rest)))).Pairwise Compatible :=
    (((perm_table _ front old rest).filter _).pairwise_iff Compatible.symm).mp once
  have header : Touches sect (Stmt.table sect.path : Stmt ν) := Or.inl List.prefix_rfl
  have first : touching sect (.table sect.path :: (old ++ (front ++ rest))) =
      .table sect.path :: touching sect (old ++ (front ++ rest)) :=
    List.filter_cons_of_pos (by simpa using header)
  rw [first, List.pairwise_cons] at reordered
  exact reordered.1 s (mem_touching.mpr ⟨List.mem_append_right _ member, touches⟩)

theorem strictly_inside (beside : Compatible (.table sect.path) s) (touches : Touches sect s) :
    ∃ seg rest, s.path = sect.path ++ seg :: rest := by
  have notWhole : s.path ≠ sect.path := by
    intro whole
    cases s with
    | table path => exact beside.1 whole.symm
    | assign base key value =>
      exact beside.1 (by rw [show base ++ key = sect.path from whole])
  rcases touches with ⟨rest, split⟩ | ⟨assigns, leading⟩
  · cases rest with
    | nil => exact absurd (by rw [← split, List.append_nil]) notWhole
    | cons seg rest => exact ⟨seg, rest, split.symm⟩
  · cases s with
    | table => cases assigns
    | assign => exact absurd leading beside.1

theorem beside_untouched (untouched : ¬ Touches sect s) (noClash : NoClash s) :
    Compatible (.table sect.path) s := by
  cases s with
  | table =>
    refine ⟨?_, noClash sect⟩
    rintro rfl
    exact untouched (Or.inl List.prefix_rfl)
  | assign =>
    exact ⟨fun leading => untouched (Or.inr ⟨rfl, leading⟩),
      fun within => untouched (Or.inl within.2.2), noClash sect⟩

theorem untouched_of_fits
    (once : (touching sect (front ++ .table sect.path :: (old ++ rest))).Pairwise Compatible)
    (headed : ∀ key value, Stmt.assign sect.path key value ∈ front ++ rest → Stmt.table sect.path ∈
      front ++ rest)
    (owned : ∀ s ∈ front ++ .table sect.path :: (old ++ rest), sect.path <+: s.path → Owned sect s) :
    ∀ s ∈ front ++ rest, ¬ Touches sect s := by
  have single : Stmt.table sect.path ∉ front ++ rest := by
    intro again
    exact (header_beside once again (Or.inl List.prefix_rfl)).1 rfl
  intro s member touches
  obtain ⟨_, _, below⟩ := strictly_inside (header_beside once member touches) touches
  have present : s ∈ front ++ .table sect.path :: (old ++ rest) := by
    rcases List.mem_append.mp member with early | late
    · exact List.mem_append_left _ early
    · exact List.mem_append_right _ (List.mem_cons_of_mem _ (List.mem_append_right _ late))
  rcases owned s present (by rw [below]; exact List.prefix_append _ _) with rfl | ⟨key, value, rfl⟩
  · exact single member
  · exact single (headed key value member)

theorem decodeTable_ne_nil
    (once : (touching sect (front ++ .table sect.path :: (old ++ rest))).Pairwise Compatible)
    (member : s ∈ front ++ rest) (touches : Touches sect s) :
    decodeTable format sect.path (front ++ rest) ≠ [] := by
  intro empty
  obtain ⟨_, _, below⟩ := strictly_inside (header_beside once member touches) touches
  have nothing := List.flatMap_eq_nil_iff.mp empty s member
  rw [entriesOf_below below] at nothing
  cases nothing

namespace Rewritten

section
variable (rewritten : Rewritten format found sect rows before after)
include rewritten

theorem noClash (apart : ∀ s ∈ before, NoClash s) : ∀ s ∈ after, NoClash s := by
  cases rewritten with
  | replaced =>
    intro s member
    rw [← List.cons_append] at member
    rcases List.mem_append.mp member with early | later
    · exact apart s (List.mem_append_left _ early)
    · rcases List.mem_append.mp later with written | late
      · exact noClash_written rows s written
      · exact apart s (List.mem_append_right _ (List.mem_cons_of_mem _ (List.mem_append_right _ late)))
  | appended stmts absent =>
    intro s member
    rcases List.mem_append.mp member with early | written
    · exact apart s early
    · exact noClash_written rows s written
  | kept => exact apart

theorem pairwise (fits : Fits format found sect rows before)
    (distinct : rows.Pairwise fun row row' => row.1.name ≠ row'.1.name)
    (compatible : before.Pairwise Compatible) (apart : ∀ s ∈ before, NoClash s) :
    after.Pairwise Compatible := by
  cases rewritten with
  | replaced front old rest present _ headed =>
    have untouched := untouched_of_fits (compatible.filter _) headed (fits.replaced present)
    have reordered := ((perm_table _ front old rest).pairwise_iff Compatible.symm).mp compatible
    rw [List.pairwise_append, List.pairwise_cons] at reordered
    apply ((perm_table _ front _ rest).pairwise_iff Compatible.symm).mpr
    apply pairwise_written distinct reordered.2.1
    intro s member
    exact ⟨reordered.2.2 _ List.mem_cons_self s member,
      fun inside => untouched s member (Or.inl inside)⟩
  | appended stmts absent some =>
    have untouched := fits.appended absent some
    apply (List.perm_append_comm.pairwise_iff Compatible.symm).mpr
    apply pairwise_written distinct compatible
    intro s member
    exact ⟨beside_untouched (untouched s member) (apart s member),
      fun inside => untouched s member (Or.inl inside)⟩
  | kept => exact compatible

theorem decode (fits : Fits format found sect rows before)
    (once : (touching sect before).Pairwise Compatible) :
    decodeTable format sect.path after = decoded format rows := by
  cases rewritten with
  | replaced _ _ _ present _ headed =>
    have untouched := untouched_of_fits once headed (fits.replaced present)
    rw [← List.cons_append, decodeTable_append, decodeTable_append, decodeTable_written,
      decodeTable_untouched fun s member => untouched s (List.mem_append_left _ member),
      decodeTable_untouched fun s member => untouched s (List.mem_append_right _ member),
      List.nil_append, List.append_nil]
  | appended stmts absent some =>
    rw [decodeTable_append, decodeTable_written, decodeTable_untouched (fits.appended absent some),
      List.nil_append]
  | kept _ absent none =>
    subst none
    exact fits.kept absent rfl

/-- Conversely, if the table decodes to the rows and nothing about it is defined twice, the text was one
that suits the section. Any other key of the table would be one row too many. -/
theorem fits (onceBefore : (touching sect before).Pairwise Compatible)
    (onceAfter : (touching sect after).Pairwise Compatible)
    (exact : (decodeTable format sect.path after).Perm (decoded format rows)) :
    Fits format found sect rows before := by
  have length := exact.length_eq
  cases rewritten with
  | replaced front _ rest present inner =>
    refine ⟨fun _ => ?_, fun absent => absurd present absent, fun absent => absurd present absent⟩
    intro s member inside
    rw [← List.cons_append, decodeTable_append, decodeTable_append, decodeTable_written,
      List.length_append, List.length_append] at length
    have empty : decodeTable format sect.path (front ++ rest) = [] := by
      rw [decodeTable_append, ← List.length_eq_zero_iff, List.length_append]
      omega
    rw [← List.cons_append] at member
    rcases List.mem_append.mp member with early | later
    · exact absurd empty (decodeTable_ne_nil onceBefore (List.mem_append_left _ early) (Or.inl inside))
    · rcases List.mem_append.mp later with own | late
      · rcases List.mem_cons.mp own with rfl | assigned
        · exact Or.inl rfl
        · exact Or.inr (inner s assigned)
      · exact absurd empty (decodeTable_ne_nil onceBefore (List.mem_append_right _ late) (Or.inl inside))
  | appended stmts absent some =>
    refine ⟨fun present => absurd present absent, fun _ _ => ?_, fun _ none => absurd none some⟩
    intro s member touches
    rw [decodeTable_append, decodeTable_written, List.length_append] at length
    have empty : decodeTable format sect.path (before ++ []) = [] := by
      rw [List.append_nil, ← List.length_eq_zero_iff]
      omega
    rw [← List.append_nil (rows.map (rowStmt format sect.path))] at onceAfter
    exact decodeTable_ne_nil onceAfter (List.mem_append_left _ member) touches empty
  | kept _ absent none =>
    refine ⟨fun present => absurd present absent, fun _ some => absurd none some, fun _ _ => ?_⟩
    subst none
    exact exact.eq_nil

end

end Rewritten

section Chain
variable {content : AccessContent} {present : AccessSection → Prop} {steps : List AccessSection}

inductive Saved (format : TomlFormat ν ω) (content : AccessContent) (present : AccessSection → Prop) :
    List AccessSection → List (Stmt ν) → List (Stmt ν) → Prop
  | done (stmts : List (Stmt ν)) : Saved format content present [] stmts stmts
  | step {sect : AccessSection} {rest : List AccessSection} {before next after : List (Stmt ν)}
      (rewritten : Rewritten format (present sect) sect (content.cells sect) before next)
      (later : Saved format content present rest next after) :
      Saved format content present (sect :: rest) before after

namespace Saved

section
variable (saved : Saved format content present steps before after)
include saved

theorem outside_eq {sections : List AccessSection} (within : ∀ sect ∈ steps, sect ∈ sections) :
    outside sections after = outside sections before := by
  induction saved with
  | done => rfl
  | step rewritten _ ih =>
    rw [ih fun sect member => within sect (List.mem_cons_of_mem _ member)]
    exact rewritten.outside_eq (within _ List.mem_cons_self)

theorem touching_eq (other : sect ∉ steps) : touching sect after = touching sect before := by
  induction saved with
  | done => rfl
  | step rewritten _ ih =>
    rw [ih fun member => other (List.mem_cons_of_mem _ member)]
    apply rewritten.touching_eq
    rintro rfl
    exact other List.mem_cons_self

theorem own_step (nodup : steps.Nodup) (member : sect ∈ steps) :
    ∃ start stop, Rewritten format (present sect) sect (content.cells sect) start stop ∧
      touching sect start = touching sect before ∧ touching sect after = touching sect stop := by
  induction saved with
  | done => exact absurd member List.not_mem_nil
  | step rewritten later ih =>
    obtain ⟨fresh, nodupRest⟩ := List.nodup_cons.mp nodup
    rcases List.mem_cons.mp member with rfl | member
    · exact ⟨_, _, rewritten, rfl, later.touching_eq fresh⟩
    · obtain ⟨start, stop, own, same, rest⟩ := ih nodupRest member
      refine ⟨start, stop, own, same.trans (rewritten.touching_eq ?_), rest⟩
      rintro rfl
      exact fresh member

theorem noClash (apart : ∀ s ∈ before, NoClash s) : ∀ s ∈ after, NoClash s := by
  induction saved with
  | done => exact apart
  | step rewritten _ ih => exact ih (rewritten.noClash apart)

theorem pairwise (nodup : steps.Nodup)
    (fits : ∀ sect ∈ steps, Fits format (present sect) sect (content.cells sect) before)
    (compatible : before.Pairwise Compatible) (apart : ∀ s ∈ before, NoClash s) :
    after.Pairwise Compatible := by
  induction saved with
  | done => exact compatible
  | step rewritten _ ih =>
    obtain ⟨fresh, nodupRest⟩ := List.nodup_cons.mp nodup
    apply ih nodupRest
    · intro sect member
      refine (fits sect (List.mem_cons_of_mem _ member)).congr (rewritten.touching_eq ?_)
      rintro rfl
      exact fresh member
    · exact rewritten.pairwise (fits _ List.mem_cons_self) (content.cells_distinct _) compatible apart
    · exact rewritten.noClash apart

theorem decode (nodup : steps.Nodup) (compatible : before.Pairwise Compatible)
    (member : sect ∈ steps) (fits : Fits format (present sect) sect (content.cells sect) before) :
    decodeTable format sect.path after = decoded format (content.cells sect) := by
  obtain ⟨_, _, own, same, rest⟩ := saved.own_step nodup member
  rw [← decodeTable_touching, rest, decodeTable_touching]
  apply own.decode (fits.congr same)
  rw [same]
  exact compatible.filter _

theorem fits (nodup : steps.Nodup) (compatible : before.Pairwise Compatible)
    (compatible' : after.Pairwise Compatible) (member : sect ∈ steps)
    (exact : (decodeTable format sect.path after).Perm (decoded format (content.cells sect))) :
    Fits format (present sect) sect (content.cells sect) before := by
  obtain ⟨start, _, own, same, rest⟩ := saved.own_step nodup member
  have fitsStart : Fits format (present sect) sect (content.cells sect) start := by
    apply own.fits
    · rw [same]
      exact compatible.filter _
    · rw [← rest]
      exact compatible'.filter _
    · rwa [← decodeTable_touching, rest, decodeTable_touching] at exact
  exact fitsStart.congr same.symm

end

end Saved

end Chain

end Telemt.Config
