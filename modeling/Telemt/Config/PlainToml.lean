import Telemt.Config.TableText

namespace Telemt.Config.PlainToml

/-! # A small TOML implementation -/

def splitDots : Line → List Key
  | [] => [[]]
  | c :: rest =>
    if c = '.' then [] :: splitDots rest
    else
      match splitDots rest with
      | [] => [[c]]
      | first :: others => (c :: first) :: others

def bareKeys (keys : List Key) : Option (List Key) := if keys.all isBareKey then some keys else none

def endsLine (tail : Line) : Bool :=
  match trimStart tail with
  | [] => true
  | c :: _ => c = '#'

def closeHeader (rest : Line) : Option (Item Line) :=
  match rest.dropWhile (· ≠ ']') with
  | ']' :: tail =>
    if endsLine tail then
      (bareKeys ((splitDots (rest.takeWhile (· ≠ ']'))).map trim)).map .header
    else none
  | _ => none

def closeArrayHeader (rest : Line) : Option (Item Line) :=
  match rest.dropWhile (· ≠ ']') with
  | ']' :: ']' :: tail =>
    if endsLine tail then
      (bareKeys ((splitDots (rest.takeWhile (· ≠ ']'))).map trim)).bind fun keys =>
        keys.getLast?.map (.arrayHeader keys.dropLast)
    else none
  | _ => none

def headerItem : Line → Option (Item Line)
  | '[' :: '[' :: rest => closeArrayHeader rest
  | '[' :: rest => closeHeader rest
  | _ => none

def entryKeys : Line → Option (List Key)
  | '"' :: rest => some [rest.dropLast]
  | key => bareKeys (splitDots key)

def isKeyChar (c : Char) : Bool := c ≠ '=' && !isWhitespace c

def entryItem (text : Line) : Option (Item Line) :=
  match trimStart (text.dropWhile isKeyChar) with
  | '=' :: rest =>
    (entryKeys (text.takeWhile isKeyChar)).map fun keys =>
      .entry keys (match rest with
        | ' ' :: value => value
        | value => value)
  | _ => none

def lexLine (line : Line) : Option (List (Item Line)) :=
  match trimStart line with
  | [] => some []
  | '#' :: _ => some []
  | '[' :: _ => (headerItem (trim line)).map ([·])
  | text => (entryItem text).map ([·])

def lex : Lexer Line Empty
  | some state, _ => state.elim
  | none, line => (lexLine line).map (none, ·)

def scalarText : Scalar → Line
  | .text value => '"' :: value.digits ++ ['"']
  | .flag value => if value then "true".toList else "false".toList
  | .number value => Nat.toDigits 10 value
  | .time value => '"' :: (toString value.seconds).toList ++ ['"']

def serialize : Scalar → Option Line
  | .number value => if value < 2 ^ 63 then some (Nat.toDigits 10 value) else none
  | value => some (scalarText value)

theorem headerItem_not_entry {text : Line} {item : Item Line} (read : headerItem text = some item) :
    item.isEntry = false := by
  unfold headerItem closeArrayHeader closeHeader at read
  split at read
  · split at read
    · split at read
      · obtain ⟨keys, _, mapped⟩ := Option.bind_eq_some_iff.mp read
        obtain ⟨_, _, rfl⟩ := Option.map_eq_some_iff.mp mapped
        rfl
      · cases read
    · cases read
  · split at read
    · split at read
      · obtain ⟨_, _, rfl⟩ := Option.map_eq_some_iff.mp read
        rfl
      · cases read
    · cases read
  · cases read

theorem lexLine_bracket {line : Line} (bracket : startsTable line = true) :
    lexLine line = (headerItem (trim line)).map ([·]) := by
  unfold startsTable at bracket
  unfold lexLine
  cases start : trimStart line with
  | nil => rw [start] at bracket; cases bracket
  | cons c =>
    rw [start] at bracket
    obtain rfl : c = '[' := by simpa using bracket
    rfl

theorem isKeyChar_of_username {c : Char} (valid : isUsernameChar c = true) : isKeyChar c = true := by
  have other : c ≠ '=' := by
    rintro rfl
    exact absurd valid (by decide)
  rw [isKeyChar, username_char_visible valid]
  simpa using other

variable (user : Username)

theorem isKeyChar_keyText : ∀ c ∈ keyText user, isKeyChar c = true := by
  have name : ∀ c ∈ user.name, isKeyChar c = true := fun c member =>
    isKeyChar_of_username (List.all_eq_true.mp user.valid c member)
  unfold keyText
  split_ifs with bare
  · exact name
  · intro c member
    rcases List.mem_cons.mp member with rfl | later
    · decide
    · rcases List.mem_append.mp later with inside | last
      · exact name c inside
      · rw [List.mem_singleton.mp last]
        decide

theorem splitDots_bare {key : Key} (bare : ∀ c ∈ key, c ≠ '.') : splitDots key = [key] := by
  induction key with
  | nil => rfl
  | cons c _ ih =>
    rw [splitDots, if_neg (bare c List.mem_cons_self),
      ih fun d member => bare d (List.mem_cons_of_mem c member)]

theorem entryKeys_keyText : entryKeys (keyText user) = some [user.name] := by
  unfold keyText
  split_ifs with bare
  · have chars := (Bool.and_eq_true_iff.mp bare).2
    have noDot : ∀ c ∈ user.name, c ≠ '.' := by
      rintro c member rfl
      exact absurd (List.all_eq_true.mp chars '.' member) (by decide)
    have noQuote : ∀ rest, user.name ≠ '"' :: rest := by
      intro rest quoted
      rw [quoted] at chars
      exact absurd (List.all_eq_true.mp chars '"' List.mem_cons_self) (by decide)
    have keys : bareKeys (splitDots user.name) = some [user.name] := by
      rw [splitDots_bare noDot, bareKeys, List.all_cons, bare]
      rfl
    unfold entryKeys
    split
    · rename_i rest quoted
      exact absurd quoted (noQuote rest)
    · exact keys
  · show some [(user.name ++ ['"']).dropLast] = _
    rw [List.dropLast_concat]

theorem lexLine_rowLine (text : Line) :
    lexLine (rowLine user text) = some [.entry [user.name] text] := by
  have takes : (rowLine user text).takeWhile isKeyChar = keyText user := by
    rw [rowLine, List.append_assoc, List.takeWhile_append_of_pos (isKeyChar_keyText user)]
    exact List.append_nil _
  have drops : (rowLine user text).dropWhile isKeyChar = " = ".toList ++ text := by
    rw [rowLine, List.append_assoc, List.dropWhile_append_of_pos (isKeyChar_keyText user)]
    rfl
  have entry : entryItem (rowLine user text) = some (.entry [user.name] text) := by
    unfold entryItem
    rw [takes, drops, entryKeys_keyText]
    rfl
  obtain ⟨c, rest, key, first⟩ := keyText_cons user
  have start : rowLine user text = c :: (rest ++ " = ".toList ++ text) := by
    rw [rowLine, key]
    rfl
  unfold lexLine
  rw [trimStart_rowLine]
  split
  · rename_i empty
    rw [start] at empty
    cases empty
  · rename_i tail comment
    rw [start] at comment
    cases comment
    exact absurd first (by decide)
  · rename_i tail bracket
    rw [start] at bracket
    cases bracket
    exact absurd first (by decide)
  · rw [entry]
    rfl

theorem serialize_text {value : Scalar} {text : Line} (written : serialize value = some text) :
    text = scalarText value := by
  cases value with
  | number n =>
    change (if n < 2 ^ 63 then some (Nat.toDigits 10 n) else none) = some text at written
    split_ifs at written
    exact (Option.some.inj written).symm
  | text value | flag value | time value => exact (Option.some.inj written).symm

theorem lexLine_header (sect : AccessSection) : lexLine sect.header = some [.header sect.keys] := by
  cases sect <;> rfl

theorem lexLine_trimmed {sect : AccessSection} {line : Line} (opens : trim line = sect.header) :
    lexLine line = some [.header sect.keys] := by
  rw [lexLine_bracket (startsTable_of_trim_header opens), opens, ← lexLine_header,
    lexLine_bracket (startsTable_of_trim_header (trim_header sect)), trim_header]

def format : TomlFormat Line Empty where
  lex := lex
  serialize := serialize
  scalar := scalarText
  rateLimit := rateLimitText
  inlineRows := fun _ => []
  lex_blank := rfl
  lex_header := by
    intro sect
    rw [lex, lexLine_header]
    rfl
  lex_trimmed := by
    intro sect line lexed opens read
    rw [lex, lexLine_trimmed opens] at read
    exact (Option.some.inj read).symm
  lex_bracket := by
    intro line lexed bracket read
    rw [lex, lexLine_bracket bracket, Option.map_map] at read
    obtain ⟨item, header, rfl⟩ := Option.map_eq_some_iff.mp read
    exact ⟨rfl, item, rfl, headerItem_not_entry header⟩
  lex_scalar := by
    intro user value text written
    rw [lex, lexLine_rowLine, serialize_text written]
    rfl
  lex_rateLimit := by
    intro user limit _
    rw [lex, lexLine_rowLine]
    rfl

end Telemt.Config.PlainToml
