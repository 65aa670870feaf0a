import Telemt.Config.TableText

namespace Telemt.Config
open Foundation

/-! # What reading does -/

variable {ν ω : Type}

structure Trail (c : Context ω) (stmts : List (Stmt ν)) (c' : Context ω) : Prop where
  bases : ∀ base key value, Stmt.assign base key value ∈ stmts →
    base = c.current ∨ Stmt.table base ∈ stmts
  current : c'.current = c.current ∨ Stmt.table c'.current ∈ stmts
  counted : ∀ path key, c'.counts (path ++ [⟨key, none⟩]) ≠ 0 →
    c.counts (path ++ [⟨key, none⟩]) ≠ 0 ∨ ∃ n, Stmt.table (path ++ [⟨key, some n⟩]) ∈ stmts
  still : (∀ s ∈ stmts, s.isTable = false) → c'.current = c.current ∧ c'.counts = c.counts

namespace Trail

theorem refl (c : Context ω) : Trail c ([] : List (Stmt ν)) c where
  bases := nofun
  current := Or.inl rfl
  counted := fun _ _ counted => Or.inl counted
  still := fun _ => ⟨rfl, rfl⟩

theorem comp {c d e : Context ω} {stmts stmts' : List (Stmt ν)} (first : Trail c stmts d)
    (second : Trail d stmts' e) : Trail c (stmts ++ stmts') e where
  bases := by
    intro base key value member
    rcases List.mem_append.mp member with earlier | later
    · rcases first.bases base key value earlier with same | headed
      · exact Or.inl same
      · exact Or.inr (List.mem_append_left _ headed)
    · rcases second.bases base key value later with same | headed
      · rcases first.current with kept | headed
        · exact Or.inl (same.trans kept)
        · rw [same]
          exact Or.inr (List.mem_append_left _ headed)
      · exact Or.inr (List.mem_append_right _ headed)
  current := by
    rcases second.current with kept | headed
    · rw [kept]
      rcases first.current with kept' | headed
      · exact Or.inl kept'
      · exact Or.inr (List.mem_append_left _ headed)
    · exact Or.inr (List.mem_append_right _ headed)
  counted := by
    intro path key counted
    rcases second.counted path key counted with earlier | ⟨n, headed⟩
    · rcases first.counted path key earlier with before | ⟨n, headed⟩
      · exact Or.inl before
      · exact Or.inr ⟨n, List.mem_append_left _ headed⟩
    · exact Or.inr ⟨n, List.mem_append_right _ headed⟩
  still := by
    intro entries
    obtain ⟨current, counts⟩ := first.still fun s member => entries s (List.mem_append_left _ member)
    obtain ⟨current', counts'⟩ := second.still fun s member => entries s (List.mem_append_right _ member)
    exact ⟨current'.trans current, counts'.trans counts⟩

theorem entries {c c' : Context ω} {stmts : List (Stmt ν)} (trail : Trail c stmts c')
    (noTable : ∀ s ∈ stmts, s.isTable = false) :
    ∀ s ∈ stmts, ∃ key value, s = .assign c.current key value := by
  intro s member
  cases s with
  | table => exact absurd (noTable _ member) Bool.noConfusion
  | assign base key value =>
    rcases trail.bases base key value member with rfl | headed
    · exact ⟨key, value, rfl⟩
    · exact absurd (noTable _ headed) Bool.noConfusion

end Trail

theorem trail_item (c : Context ω) (item : Item ν) : Trail c [(c.item item).2] (c.item item).1 := by
  cases item with
  | header keys =>
    refine ⟨?_, Or.inr (List.mem_singleton.mpr rfl), fun _ _ counted => Or.inl counted, ?_⟩
    · intro base key value member
      cases List.mem_singleton.mp member
    · intro entries
      exact absurd (entries _ (List.mem_singleton.mpr rfl)) Bool.noConfusion
  | arrayHeader parents last =>
    refine ⟨?_, Or.inr (List.mem_singleton.mpr rfl), ?_, ?_⟩
    · intro base key value member
      cases List.mem_singleton.mp member
    · intro path key counted
      let array := Context.resolve c.counts [] parents ++ [⟨last, none⟩]
      by_cases same : path ++ [⟨key, none⟩] = array
      · obtain ⟨rfl, sameSeg⟩ := List.append_inj' same rfl
        cases sameSeg
        exact Or.inr ⟨_, List.mem_singleton.mpr rfl⟩
      · left
        change Function.update c.counts array _ (path ++ [⟨key, none⟩]) ≠ 0 at counted
        rwa [Function.update_of_ne same] at counted
    · intro entries
      exact absurd (entries _ (List.mem_singleton.mpr rfl)) Bool.noConfusion
  | entry =>
    refine ⟨?_, Or.inl rfl, fun _ _ counted => Or.inl counted, fun _ => ⟨rfl, rfl⟩⟩
    intro base key value' member
    cases List.mem_singleton.mp member
    exact Or.inl rfl

theorem trail_items (c : Context ω) (items : List (Item ν)) :
    Trail c (c.items items).2 (c.items items).1 := by
  induction items generalizing c with
  | nil => exact Trail.refl c
  | cons item _ ih => exact (trail_item c item).comp (ih _)

section Lines
variable {lex : Lexer ν ω} {files : FileSystem} {dir : Line}

variable {c c' : Context ω} {line : Line} {stmts : List (Stmt ν)}

theorem trail_readPhysical (read : readPhysical lex c line = some (c', stmts)) :
    Trail c stmts c' := by
  obtain ⟨⟨state, items⟩, _, same⟩ := Option.map_eq_some_iff.mp read
  obtain ⟨rfl, rfl⟩ := Prod.mk.inj same
  obtain ⟨bases, current, counted, still⟩ := trail_items { c with lexState := state } items
  exact ⟨bases, current, counted, still⟩

theorem trail_readLine (read : readLine lex files dir c line = some (c', stmts)) :
    Trail c stmts c' := by
  obtain ⟨_, _, ran⟩ := Option.bind_eq_some_iff.mp read
  exact transduce_rel Trail.refl (fun _ _ _ _ => trail_readPhysical) (fun _ _ _ _ _ => Trail.comp) ran

theorem trail_lines {lines : List Line}
    (ran : transduce (readLine lex files dir) c lines = some (c', stmts)) : Trail c stmts c' :=
  transduce_rel Trail.refl (fun _ _ _ _ => trail_readLine) (fun _ _ _ _ _ => Trail.comp) ran

theorem includePath_bracket (bracket : startsTable line = true) :
    includePath line = none := by
  unfold startsTable at bracket
  cases start : trimStart line with
  | nil => rw [start] at bracket; cases bracket
  | cons c =>
    rw [start] at bracket
    obtain rfl : c = '[' := by simpa using bracket
    rw [includePath, start]
    rfl

theorem readLine_plain (plain : includePath line = none) (c : Context ω) :
    readLine lex files dir c line = (readPhysical lex c line).map fun read => (read.1, read.2 ++ []) := by
  rw [readLine, expandLine, plain]
  show transduce (readPhysical lex) c [line] = _
  rw [transduce]
  cases readPhysical lex c line <;> rfl

theorem readLine_unreadable {path : Line} (directive : includePath line = some path)
    (unreadable : files dir path = none) (c : Context ω) :
    readLine lex files dir c line = none := by
  rw [readLine, expandLine, directive]
  show ((files dir path).bind _).bind _ = _
  rw [unreadable]
  rfl

end Lines

end Telemt.Config
