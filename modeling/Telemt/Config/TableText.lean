import Telemt.Config.AccessSections

namespace Telemt.Config

/-! # Headers and rows in the text -/

variable {c : Char}

theorem trimStart_cons {rest : Line} (visible : isWhitespace c = false) :
    trimStart (c :: rest) = c :: rest := by
  rw [trimStart, List.dropWhile_cons, if_neg (by rw [visible]; exact Bool.false_ne_true)]

theorem trimStart_of_trim {line : Line} {rest : Line} (trimmed : trim line = c :: rest) :
    ∃ tail, trimStart line = c :: tail := by
  obtain ⟨tail, split⟩ := (List.rdropWhile_prefix isWhitespace (l := trimStart line))
  rw [show (trimStart line).rdropWhile isWhitespace = c :: rest from trimmed] at split
  exact ⟨rest ++ tail, split.symm⟩

variable {sect : AccessSection}

theorem startsTable_of_trim_header {line : Line} (trimmed : trim line = sect.header) :
    startsTable line = true := by
  obtain ⟨_, start⟩ := trimStart_of_trim trimmed
  rw [startsTable, start]
  rfl

theorem trim_header (sect : AccessSection) : trim sect.header = sect.header := by
  cases sect <;> decide

theorem username_char_visible (valid : isUsernameChar c = true) : isWhitespace c = false := by
  have code : c.toNat = 0x2d ∨ c.toNat = 0x2e ∨ (0x30 ≤ c.toNat ∧ c.toNat ≤ 0x7a) := by
    unfold isUsernameChar Char.isAlphanum Char.isAlpha Char.isUpper Char.isLower Char.isDigit at valid
    simp only [Bool.or_eq_true, decide_eq_true_eq, Bool.and_eq_true, UInt32.le_iff_toNat_le,
      ge_iff_le] at valid
    change (((((65 ≤ c.toNat ∧ c.toNat ≤ 90) ∨ (97 ≤ c.toNat ∧ c.toNat ≤ 122)) ∨
      (48 ≤ c.toNat ∧ c.toNat ≤ 57)) ∨ c = '_') ∨ c = '-') ∨ c = '.' at valid
    rcases valid with (((letter | digit) | rfl) | rfl) | rfl
    · omega
    · omega
    · decide
    · decide
    · decide
  unfold isWhitespace
  simp only [Bool.or_eq_false_iff, Bool.and_eq_false_iff, decide_eq_false_iff_not]
  refine ⟨⟨by omega, by omega⟩, ?_⟩
  simp only [List.contains_eq_mem, List.mem_cons, List.not_mem_nil, or_false, decide_eq_false_iff_not]
  omega

variable (user : Username)

theorem keyText_cons :
    ∃ c rest, keyText user = c :: rest ∧ (c = '"' ∨ isUsernameChar c = true) := by
  unfold keyText
  split_ifs with bare
  · cases name : user.name with
    | nil => rw [name] at bare; cases bare
    | cons c rest =>
      refine ⟨c, rest, rfl, Or.inr ?_⟩
      have valid := user.valid
      rw [name] at valid
      exact (List.all_eq_true.mp valid) c List.mem_cons_self
  · exact ⟨'"', _, rfl, Or.inl rfl⟩

theorem trimStart_rowLine (text : Line) : trimStart (rowLine user text) = rowLine user text := by
  obtain ⟨c, _, key, first⟩ := keyText_cons user
  unfold rowLine
  rw [key]
  apply trimStart_cons
  rcases first with rfl | valid
  · decide
  · exact username_char_visible valid

theorem startsTable_rowLine (text : Line) : startsTable (rowLine user text) = false := by
  obtain ⟨c, _, key, first⟩ := keyText_cons user
  have other : c ≠ '[' := by
    rintro rfl
    exact absurd first (by decide)
  rw [startsTable, trimStart_rowLine, rowLine, key]
  simpa using other

def includeKey : Key := "include".toList

theorem includePath_include {user : Username} (named : user.name = includeKey) (text : Line) :
    includePath (rowLine user text) = some (trimQuotes (trim (' ' :: text))) := by
  have bare : keyText user = includeKey := by
    rw [keyText, named]
    rfl
  rw [includePath, trimStart_rowLine, rowLine, bare]
  rfl

theorem includePath_longer {more text : Line} (valid : isUsernameChar c = true) :
    includePath (includeKey ++ (c :: more) ++ text) = none := by
  have other : c ≠ '=' := by
    rintro rfl
    exact absurd valid (by decide)
  have start : trimStart (includeKey ++ (c :: more) ++ text) = includeKey ++ (c :: more ++ text) := rfl
  have stripped : (includeKey ++ (c :: more ++ text)).dropPrefix? "include".toList =
      some (c :: more ++ text) := rfl
  rw [includePath, start, stripped, Option.bind_some, List.cons_append,
    trimStart_cons (username_char_visible valid), List.dropPrefix?, List.dropPrefix?]
  simp [other]

theorem includePath_rowLine {user : Username} (named : user.name ≠ includeKey) (text : Line) :
    includePath (rowLine user text) = none := by
  by_cases bare : isBareKey user.name = true
  · have key : keyText user = user.name := by rw [keyText, if_pos bare]
    cases stripped : (rowLine user text).dropPrefix? "include".toList with
    | none => rw [includePath, trimStart_rowLine, stripped, Option.bind_none]
    | some =>
      obtain ⟨found, split, same⟩ := List.dropPrefix?_eq_some_iff.mp stripped
      obtain rfl : found = includeKey := eq_of_beq same
      rw [rowLine, key, List.append_assoc] at split
      rcases List.append_eq_append_iff.mp split with ⟨gap, whole, after⟩ | ⟨more, whole, after⟩
      · -- The directive's word would have to reach into the blank before the equals sign.
        cases gap with
        | nil => exact absurd (by rw [whole, List.append_nil]) named
        | cons c =>
          have blank : c = ' ' := (List.cons.inj after).1.symm
          have member : c ∈ includeKey := by
            rw [whole]
            exact List.mem_append_right _ List.mem_cons_self
          rw [blank] at member
          exact absurd member (by decide)
      · cases more with
        | nil => exact absurd (by rw [whole, List.append_nil]) named
        | cons c =>
          have valid : isUsernameChar c = true := by
            apply List.all_eq_true.mp user.valid
            rw [whole]
            exact List.mem_append_right _ List.mem_cons_self
          rw [rowLine, key, whole, List.append_assoc]
          exact includePath_longer valid
  · have key : keyText user = '"' :: user.name ++ ['"'] := by rw [keyText, if_neg bare]
    rw [includePath, trimStart_rowLine, rowLine, key]
    rfl

structure Cut (sect : AccessSection) (lines front : List Line) (head : Line) (body rest : List Line) :
    Prop where
  split : lines = front ++ head :: (body ++ rest)
  first : ∀ line ∈ front, trim line ≠ sect.header
  opens : trim head = sect.header
  inner : ∀ line ∈ body, startsTable line = false
  closes : ∀ line ∈ rest.head?, startsTable line = true

def Found (lines : List Line) (sect : AccessSection) : Prop := ∃ line ∈ lines, trim line = sect.header

instance (lines : List Line) (sect : AccessSection) : Decidable (Found lines sect) :=
  inferInstanceAs (Decidable (∃ line ∈ lines, trim line = sect.header))

theorem findBoundsFrom_started (target : Line) (offset start : Nat) (lines : List Line) :
    ∃ body rest, lines = body ++ rest ∧ (∀ line ∈ body, startsTable line = false) ∧
      (∀ line ∈ rest.head?, startsTable line = true) ∧
      findBoundsFrom target offset (some start) lines = some (start, offset + body.length) := by
  induction lines generalizing offset with
  | nil =>
    refine ⟨[], [], rfl, nofun, ?_, rfl⟩
    intro line member
    cases member
  | cons line lines ih =>
    cases bracket : startsTable line with
    | true =>
      refine ⟨[], line :: lines, rfl, nofun, ?_, ?_⟩
      · intro last same
        cases same
        exact bracket
      · rw [findBoundsFrom, if_pos bracket]
        rfl
    | false =>
      obtain ⟨body, rest, split, inner, closes, bounds⟩ := ih (offset + 1)
      refine ⟨line :: body, rest, by rw [split]; rfl, ?_, closes, ?_⟩
      · intro other member
        rcases List.mem_cons.mp member with rfl | later
        · exact bracket
        · exact inner other later
      · rw [findBoundsFrom, if_neg (by rw [bracket]; exact Bool.false_ne_true), bounds,
          List.length_cons, Nat.add_right_comm, Nat.add_assoc]

theorem findBoundsFrom_unstarted (sect : AccessSection) (offset : Nat) (lines : List Line) :
    (findBoundsFrom sect.header offset none lines = none ∧ ¬ Found lines sect) ∨
      ∃ front head body rest, Cut sect lines front head body rest ∧
        findBoundsFrom sect.header offset none lines =
          some (offset + front.length, offset + front.length + 1 + body.length) := by
  induction lines generalizing offset with
  | nil => exact Or.inl ⟨rfl, fun ⟨_, member, _⟩ => absurd member List.not_mem_nil⟩
  | cons line lines ih =>
    by_cases opens : trim line = sect.header
    · obtain ⟨body, rest, split, inner, closes, bounds⟩ :=
        findBoundsFrom_started sect.header (offset + 1) offset lines
      refine Or.inr ⟨[], line, body, rest, ?_, ?_⟩
      · exact ⟨by rw [split]; rfl, nofun, opens, inner, closes⟩
      · rw [findBoundsFrom, if_pos opens, bounds]
        rfl
    · rw [findBoundsFrom, if_neg opens]
      rcases ih (offset + 1) with ⟨missing, absent⟩ | ⟨front, head, body, rest, cut, bounds⟩
      · refine Or.inl ⟨missing, ?_⟩
        rintro ⟨other, member, same⟩
        rcases List.mem_cons.mp member with rfl | later
        · exact opens same
        · exact absent ⟨other, later, same⟩
      · refine Or.inr ⟨line :: front, head, body, rest, ?_, ?_⟩
        · refine ⟨by rw [cut.split]; rfl, ?_, cut.opens, cut.inner, cut.closes⟩
          intro other member
          rcases List.mem_cons.mp member with rfl | later
          · exact opens
          · exact cut.first other later
        · rw [bounds, List.length_cons, Nat.add_right_comm offset 1, Nat.add_assoc offset]

variable {lines : List Line}

theorem Cut.found {front : List Line} {head : Line} {body rest : List Line}
    (cut : Cut sect lines front head body rest) : Found lines sect := by
  refine ⟨head, ?_, cut.opens⟩
  rw [cut.split]
  exact List.mem_append_right _ List.mem_cons_self

theorem findTomlTableBounds_isNone :
    (findTomlTableBounds lines sect).isNone = true ↔ ¬ Found lines sect := by
  rcases findBoundsFrom_unstarted sect 0 lines with ⟨missing, absent⟩ | ⟨front, head, body, rest, cut, bounds⟩
  · rw [findTomlTableBounds, missing]
    exact ⟨fun _ => absent, fun _ => rfl⟩
  · rw [findTomlTableBounds, bounds]
    exact ⟨fun missing => absurd missing Bool.false_ne_true, fun absent => absurd cut.found absent⟩

theorem upsertTomlTable_found (found : Found lines sect) (replacement : List Line) :
    ∃ front head body rest, Cut sect lines front head body rest ∧
      upsertTomlTable lines sect replacement = front ++ replacement ++ rest := by
  rcases findBoundsFrom_unstarted sect 0 lines with ⟨_, absent⟩ | ⟨front, head, body, rest, cut, bounds⟩
  · exact absurd found absent
  · refine ⟨front, head, body, rest, cut, ?_⟩
    have around : lines = front ++ head :: body ++ rest := by
      rw [cut.split, List.append_assoc]
      rfl
    have length : 0 + front.length + 1 + body.length = (front ++ head :: body).length := by
      rw [List.length_append, List.length_cons]
      omega
    rw [upsertTomlTable, findTomlTableBounds, bounds]
    show lines.take (0 + front.length) ++ replacement ++ lines.drop _ = _
    rw [length, Nat.zero_add, around, List.drop_left, List.append_assoc front, List.take_left]

theorem upsertTomlTable_absent (absent : ¬ Found lines sect) (replacement : List Line) :
    upsertTomlTable lines sect replacement =
      if lines.isEmpty then replacement else lines ++ [] :: replacement := by
  have missing := Option.isNone_iff_eq_none.mp (findTomlTableBounds_isNone.mpr absent)
  rw [upsertTomlTable, missing]

end Telemt.Config
