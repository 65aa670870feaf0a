import Telemt.Foundation.Run
import Mathlib.Data.List.DropRight

namespace Telemt.Config
open Foundation

/-!
# Configuration texts

A lexer turns lines into headers and entries; it has a state because a value may span lines.
-/

abbrev Line := List Char

/-- The characters with the Unicode property White_Space, which is what trimming removes. -/
def isWhitespace (c : Char) : Bool :=
  (0x9 ≤ c.toNat && c.toNat ≤ 0xd) || (0x2000 ≤ c.toNat && c.toNat ≤ 0x200a) ||
    [0x20, 0x85, 0xa0, 0x1680, 0x2028, 0x2029, 0x202f, 0x205f, 0x3000].contains c.toNat

def trimStart (line : Line) : Line := line.dropWhile isWhitespace

def trim (line : Line) : Line := (trimStart line).rdropWhile isWhitespace

def startsTable (line : Line) : Bool := (trimStart line).head? = some '['

abbrev Key := List Char

/-- A key on a path, with the number of the element if it names an array of tables. -/
structure Seg where
  key : Key
  index : Option Nat
  deriving DecidableEq, Repr

abbrev Path := List Seg

def plainPath (keys : List Key) : Path := keys.map (⟨·, none⟩)

inductive Stmt (ν : Type)
  | table (path : Path)
  | assign (base key : Path) (value : ν)
  deriving DecidableEq, Repr

namespace Stmt
variable {ν : Type}

def path : Stmt ν → Path
  | .table path => path
  | .assign base key _ => base ++ key

def value : Stmt ν → Option ν
  | .table _ => none
  | .assign _ _ value => some value

def isTable : Stmt ν → Bool
  | .table _ => true
  | .assign _ _ _ => false

end Stmt

/-- One of the paths takes for a table what the other takes for an array of tables. -/
def clash : Path → Path → Bool
  | s :: p, t :: q =>
    if s = t then clash p q else s.key = t.key && s.index.isNone != t.index.isNone
  | _, _ => false

/-- A header for `path` may stand in a document with an assignment of `key` in the table `base`: the
assigned key is not on the way to it, and it is not a table that the dotted key itself creates. -/
def Beside (path base key : Path) : Prop :=
  ¬ base ++ key <+: path ∧ ¬ (base <+: path ∧ base ≠ path ∧ path <+: base ++ key) ∧
    clash path (base ++ key) = false

variable {ν : Type}

/-- Two statements of one document do not define anything twice. -/
def Compatible : Stmt ν → Stmt ν → Prop
  | .table p, .table q => p ≠ q ∧ clash p q = false
  | .table p, .assign base key _ => Beside p base key
  | .assign base key _, .table p => Beside p base key
  | .assign base key _, .assign base' key' _ =>
    ¬ base ++ key <+: base' ++ key' ∧ ¬ base' ++ key' <+: base ++ key ∧
      clash (base ++ key) (base' ++ key') = false

instance (path base key : Path) : Decidable (Beside path base key) :=
  inferInstanceAs (Decidable (_ ∧ _ ∧ _))

instance (s t : Stmt ν) : Decidable (Compatible s t) :=
  match s, t with
  | .table _, .table _ => inferInstanceAs (Decidable (_ ∧ _))
  | .table p, .assign base key _ => inferInstanceAs (Decidable (Beside p base key))
  | .assign base key _, .table p => inferInstanceAs (Decidable (Beside p base key))
  | .assign _ _ _, .assign _ _ _ => inferInstanceAs (Decidable (_ ∧ _ ∧ _))

theorem clash_comm (p q : Path) : clash p q = clash q p := by
  induction p generalizing q with
  | nil => cases q <;> rfl
  | cons s p ih =>
    cases q with
    | nil => rfl
    | cons t q =>
      by_cases same : s = t
      · subst same
        rw [clash, clash, if_pos rfl, if_pos rfl, ih]
      · rw [clash, clash, if_neg same, if_neg (Ne.symm same)]
        cases s.index.isNone <;> cases t.index.isNone <;> simp [eq_comm]

theorem Compatible.symm {s t : Stmt ν} (compatible : Compatible s t) : Compatible t s := by
  cases s with
  | table p =>
    cases t with
    | table q => exact ⟨Ne.symm compatible.1, by rw [clash_comm]; exact compatible.2⟩
    | assign base key value => exact compatible
  | assign =>
    cases t with
    | table q => exact compatible
    | assign =>
      exact ⟨compatible.2.1, compatible.1, by rw [clash_comm]; exact compatible.2.2⟩

theorem clash_self_append (p q : Path) : clash p (p ++ q) = false := by
  induction p with
  | nil => rfl
  | cons s p ih => rw [List.cons_append, clash, if_pos rfl, ih]

inductive Item (ν : Type)
  | header (keys : List Key)
  | arrayHeader (parents : List Key) (last : Key)
  | entry (keys : List Key) (value : ν)

def Item.isEntry : Item ν → Bool
  | .entry _ _ => true
  | _ => false

/-- Where the reader is: in a value or not, in which table, and how many elements the arrays of
tables have so far. -/
structure Context (ω : Type) where
  lexState : Option ω
  current : Path
  counts : Path → Nat

namespace Context
variable {ω ν : Type}

def start : Context ω := ⟨none, [], fun _ => 0⟩

def resolve (counts : Path → Nat) : Path → List Key → Path
  | path, [] => path
  | path, key :: keys =>
    let elements := counts (path ++ [⟨key, none⟩])
    resolve counts (path ++ [⟨key, if elements = 0 then none else some (elements - 1)⟩]) keys

def item (c : Context ω) : Item ν → Context ω × Stmt ν
  | .header keys =>
    let path := resolve c.counts [] keys
    ({ c with current := path }, .table path)
  | .arrayHeader parents last =>
    let parent := resolve c.counts [] parents
    let elements := c.counts (parent ++ [⟨last, none⟩])
    let path := parent ++ [⟨last, some elements⟩]
    (⟨c.lexState, path, Function.update c.counts (parent ++ [⟨last, none⟩]) (elements + 1)⟩,
      .table path)
  | .entry keys value => (c, .assign c.current (plainPath keys) value)

def items (c : Context ω) : List (Item ν) → Context ω × List (Stmt ν)
  | [] => (c, [])
  | first :: rest =>
    let (next, stmt) := c.item first
    let (last, stmts) := next.items rest
    (last, stmt :: stmts)

end Context

abbrev Lexer (ν ω : Type) := Option ω → Line → Option (Option ω × List (Item ν))

section Reading
variable {ν ω : Type} (lex : Lexer ν ω)

def readPhysical (c : Context ω) (line : Line) : Option (Context ω × List (Stmt ν)) :=
  (lex c.lexState line).map fun lexed => Context.items { c with lexState := lexed.1 } lexed.2

def trimQuotes (text : Line) : Line := (text.dropWhile (· = '"')).rdropWhile (· = '"')

def includePath (line : Line) : Option Line :=
  ((trimStart line).dropPrefix? "include".toList).bind fun rest =>
    ((trimStart rest).dropPrefix? ['=']).map fun path => trimQuotes (trim path)

/-- The directory and the lines of a file named relative to a directory. -/
abbrev FileSystem := (dir path : Line) → Option (Line × List Line)

variable (files : FileSystem)

/-- A line, or the lines of the file it includes followed by a blank one. -/
def expandLine (inner : Line → List Line → Option (List Line)) (dir line : Line) :
    Option (List Line) :=
  match includePath line with
  | none => some [line]
  | some path => (files dir path).bind fun file => (inner file.1 file.2).map (· ++ [[]])

/-- The first argument is one more than the includes that may still be nested. -/
def preprocessIncludes (files : FileSystem) : Nat → Line → List Line → Option (List Line)
  | 0, _, _ => none
  | depth + 1, dir, lines =>
    (lines.mapM (expandLine files (preprocessIncludes files depth) dir)).map List.flatten

def includeDepth : Nat := 11

def readLine (dir : Line) (c : Context ω) (line : Line) : Option (Context ω × List (Stmt ν)) :=
  (expandLine files (preprocessIncludes files 10) dir line).bind (transduce (readPhysical lex) c)

def parse (dir : Line) (lines : List Line) : Option (Context ω × List (Stmt ν)) :=
  (preprocessIncludes files includeDepth dir lines).bind
    (transduce (readPhysical lex) Context.start)

/-- Expanding first and reading then is reading the main file's lines one after the other. -/
theorem preprocess_bind_read (dir : Line) (c : Context ω) (lines : List Line) :
    (preprocessIncludes files includeDepth dir lines).bind (transduce (readPhysical lex) c) =
      transduce (readLine lex files dir) c lines := by
  induction lines generalizing c with
  | nil => rfl
  | cons line lines ih =>
    have unfolded : preprocessIncludes files includeDepth dir (line :: lines) =
        (expandLine files (preprocessIncludes files 10) dir line).bind fun first =>
          (preprocessIncludes files includeDepth dir lines).map (first ++ ·) := by
      show Option.map List.flatten ((line :: lines).mapM _) = _
      rw [List.mapM_cons]
      show Option.map List.flatten (Option.bind _ fun first => Option.bind _ fun rest => _) = _
      rw [Option.map_bind]
      congr 1
      funext first
      show Option.map List.flatten (Option.bind _ _) = Option.map _ (Option.map List.flatten _)
      cases List.mapM (expandLine files (preprocessIncludes files 10) dir) lines <;> rfl
    rw [unfolded, transduce, readLine]
    cases expandLine files (preprocessIncludes files 10) dir line with
    | none => rfl
    | some first =>
      rw [Option.bind_some, Option.bind_some, Option.bind_map]
      show (preprocessIncludes files includeDepth dir lines).bind
        (fun rest => transduce (readPhysical lex) c (first ++ rest)) = _
      cases firstRead : transduce (readPhysical lex) c first with
      | none =>
        apply Option.bind_eq_none_iff.mpr
        intro rest _
        cases whole : transduce (readPhysical lex) c (first ++ rest) with
        | none => rfl
        | some =>
          obtain ⟨t, _, _, ran, _⟩ := transduce_append_eq_some.mp whole
          rw [firstRead] at ran
          cases ran
      | some moved =>
        simp only [transduce_append firstRead, Option.bind_some]
        rw [← ih moved.1, Option.map_bind]
        rfl

end Reading

end Telemt.Config
