import Telemt.Config.Toml
import Telemt.TrafficLimiter.CidrRules

namespace Telemt.Config
open Telemt.Foundation Telemt.TrafficLimiter

/-!
# Saving the access sections

`save_access_sections_to_disk` replaces the tables of the sections it is given in the lines of the
configuration file, or appends them. The TOML implementation is a parameter: a lexer, the text it gives
for a scalar value, and the value that text stands for.
-/

inductive AccessSection
  | users
  | userEnabled
  | userAdTags
  | userMaxTcpConns
  | userExpirations
  | userDataQuota
  | userRateLimits
  | userMaxUniqueIps
  deriving DecidableEq, Repr

namespace AccessSection

def key : AccessSection → Key
  | .users => "users".toList
  | .userEnabled => "user_enabled".toList
  | .userAdTags => "user_ad_tags".toList
  | .userMaxTcpConns => "user_max_tcp_conns".toList
  | .userExpirations => "user_expirations".toList
  | .userDataQuota => "user_data_quota".toList
  | .userRateLimits => "user_rate_limits".toList
  | .userMaxUniqueIps => "user_max_unique_ips".toList

variable (sect : AccessSection)

def tableName : Line := "access.".toList ++ sect.key

def header : Line := '[' :: sect.tableName ++ [']']

def keys : List Key := ["access".toList, sect.key]

def path : Path := plainPath sect.keys

def all : List AccessSection :=
  [.users, .userEnabled, .userAdTags, .userMaxTcpConns, .userExpirations, .userDataQuota,
    .userRateLimits, .userMaxUniqueIps]

theorem mem_all : sect ∈ all := by
  cases sect <;> decide

variable {sect sect' : AccessSection}

theorem key_injective (same : sect.key = sect'.key) : sect = sect' := by
  revert same
  cases sect <;> cases sect' <;> decide

theorem header_injective (same : sect.header = sect'.header) :
    sect = sect' := by
  apply key_injective
  have inner : sect.tableName ++ [']'] = sect'.tableName ++ [']'] := List.tail_eq_of_cons_eq same
  exact List.append_cancel_left (List.append_cancel_right inner)

theorem path_injective (same : sect.path = sect'.path) :
    sect = sect' := by
  apply key_injective
  have last := List.head_eq_of_cons_eq (List.tail_eq_of_cons_eq same)
  exact congrArg Seg.key last

theorem clash_path (sect sect' : AccessSection) : clash sect.path sect'.path = false := by
  simp [clash, path, keys, plainPath]

end AccessSection

def isUsernameChar (c : Char) : Bool := c.isAlphanum || c = '_' || c = '-' || c = '.'

structure Username where
  name : Key
  valid : name.all isUsernameChar = true

def isHexDigit (c : Char) : Bool :=
  c.isDigit || ('a' ≤ c && c ≤ 'f') || ('A' ≤ c && c ≤ 'F')

/-- A secret or an ad tag, as the configuration accepts them. -/
structure HexText where
  digits : Line
  valid : digits.length = 32 ∧ digits.all isHexDigit = true

structure Timestamp where
  seconds : Int
  nanos : Nat

structure Rows (α : Type) where
  rows : List (Username × α)
  sorted : rows.Pairwise fun row row' => row.1.name < row'.1.name

structure AccessContent where
  users : Rows HexText
  userEnabled : Rows Bool
  userAdTags : Rows HexText
  userMaxTcpConns : Rows Nat
  userExpirations : Rows Timestamp
  userDataQuota : Rows Nat
  userRateLimits : Rows RateLimitBps
  userMaxUniqueIps : Rows Nat

inductive Scalar
  | text (value : HexText)
  | flag (value : Bool)
  | number (value : Nat)
  | time (value : Timestamp)

inductive Cell
  | scalar (value : Scalar)
  | rateLimit (value : RateLimitBps)

def Rows.cells {α : Type} (rows : Rows α) (cell : α → Cell) : List (Username × Cell) :=
  rows.rows.map fun row => (row.1, cell row.2)

def AccessContent.cells (content : AccessContent) : AccessSection → List (Username × Cell)
  | .users => content.users.cells fun value => .scalar (.text value)
  | .userEnabled => content.userEnabled.cells fun value => .scalar (.flag value)
  | .userAdTags => content.userAdTags.cells fun value => .scalar (.text value)
  | .userMaxTcpConns => content.userMaxTcpConns.cells fun value => .scalar (.number value)
  | .userExpirations => content.userExpirations.cells fun value => .scalar (.time value)
  | .userDataQuota => content.userDataQuota.cells fun value => .scalar (.number value)
  | .userRateLimits => content.userRateLimits.cells .rateLimit
  | .userMaxUniqueIps => content.userMaxUniqueIps.cells fun value => .scalar (.number value)

theorem AccessContent.cells_distinct (content : AccessContent) (sect : AccessSection) :
    (content.cells sect).Pairwise fun row row' => row.1.name ≠ row'.1.name := by
  have distinct {α : Type} (rows : Rows α) (cell : α → Cell) :
      (rows.cells cell).Pairwise fun row row' => row.1.name ≠ row'.1.name := by
    rw [Rows.cells, List.pairwise_map]
    apply rows.sorted.imp
    intro row row' less same
    rw [same] at less
    exact List.lt_irrefl _ less
  cases sect <;> rw [AccessContent.cells] <;> exact distinct _ _

def isBareKey (key : Key) : Bool :=
  !key.isEmpty && key.all fun c => c.isAlphanum || c = '_' || c = '-'

/-- A key as the serializer writes it: bare if it can be, else in quotes. -/
def keyText (user : Username) : Line :=
  if isBareKey user.name then user.name else '"' :: user.name ++ ['"']

def rowLine (user : Username) (text : Line) : Line := keyText user ++ " = ".toList ++ text

def rateLimitText (limit : RateLimitBps) : Line :=
  "\x7b up_bps = ".toList ++ Nat.toDigits 10 limit.upBps ++ ", down_bps = ".toList ++
    Nat.toDigits 10 limit.downBps ++ " \x7d".toList

def Representable (limit : RateLimitBps) : Prop := limit.upBps < 2 ^ 63 ∧ limit.downBps < 2 ^ 63

/-- A TOML implementation. The serializer may refuse a value; what it writes, and an inline table of
rate limits, is read back as one entry. Outside of values, a line that starts with a bracket is one
header. -/
structure TomlFormat (ν ω : Type) where
  lex : Lexer ν ω
  serialize : Scalar → Option Line
  scalar : Scalar → ν
  rateLimit : RateLimitBps → ν
  inlineRows : ν → List (Key × ν)
  lex_blank : lex none [] = some (none, [])
  lex_header : ∀ sect : AccessSection, lex none sect.header = some (none, [.header sect.keys])
  lex_trimmed : ∀ (sect : AccessSection) (line : Line) (lexed), trim line = sect.header →
    lex none line = some lexed → lexed = (none, [.header sect.keys])
  lex_bracket : ∀ (line : Line) (lexed), startsTable line = true → lex none line = some lexed →
    lexed.1 = none ∧ ∃ item, lexed.2 = [item] ∧ item.isEntry = false
  lex_scalar : ∀ (user : Username) (value : Scalar) (text : Line), serialize value = some text →
    lex none (rowLine user text) = some (none, [.entry [user.name] (scalar value)])
  lex_rateLimit : ∀ (user : Username) (limit : RateLimitBps), Representable limit →
    lex none (rowLine user (rateLimitText limit)) = some (none, [.entry [user.name] (rateLimit limit)])

namespace TomlFormat
variable {ν ω : Type} (format : TomlFormat ν ω)

def cellText : Cell → Option Line
  | .scalar value => format.serialize value
  | .rateLimit limit => some (rateLimitText limit)

def cellValue : Cell → ν
  | .scalar value => format.scalar value
  | .rateLimit limit => format.rateLimit limit

def renderRow (row : Username × Cell) : Option Line := (format.cellText row.2).map (rowLine row.1)

def renderAccessSection (content : AccessContent) (sect : AccessSection) : Option (List Line) :=
  ((content.cells sect).mapM format.renderRow).map (sect.header :: ·)

end TomlFormat

/-- The loop of `find_toml_table_bounds`, with offsets in lines. -/
def findBoundsFrom (target : Line) : Nat → Option Nat → List Line → Option (Nat × Nat)
  | offset, start, [] => start.map (·, offset)
  | offset, none, line :: rest =>
    findBoundsFrom target (offset + 1) (if trim line = target then some offset else none) rest
  | offset, some start, line :: rest =>
    if startsTable line then some (start, offset)
    else findBoundsFrom target (offset + 1) (some start) rest

def findTomlTableBounds (lines : List Line) (sect : AccessSection) : Option (Nat × Nat) :=
  findBoundsFrom sect.header 0 none lines

/-- A replacement that is appended to other lines follows a blank one. -/
def upsertTomlTable (lines : List Line) (sect : AccessSection) (replacement : List Line) : List Line :=
  match findTomlTableBounds lines sect with
  | some (start, stop) => lines.take start ++ replacement ++ lines.drop stop
  | none => if lines.isEmpty then replacement else lines ++ [] :: replacement

section Save
variable {ν ω : Type} (format : TomlFormat ν ω) (content : AccessContent)

def saveFrom : List AccessSection → List AccessSection → List Line → Option (List Line)
  | _, [], lines => some lines
  | applied, sect :: rest, lines =>
    if sect ∈ applied then saveFrom applied rest lines
    else if (findTomlTableBounds lines sect).isNone && (content.cells sect).isEmpty then
      saveFrom (applied ++ [sect]) rest lines
    else
      (format.renderAccessSection content sect).bind fun rendered =>
        saveFrom (applied ++ [sect]) rest (upsertTomlTable lines sect rendered)

def saveAccessSectionsToDisk (sections : List AccessSection) (lines : List Line) :
    Option (List Line) :=
  saveFrom format content [] sections lines

def NoClash (s : Stmt ν) : Prop := ∀ sect : AccessSection, clash sect.path s.path = false

instance (s : Stmt ν) : Decidable (NoClash s) :=
  decidable_of_iff (∀ sect ∈ AccessSection.all, clash sect.path s.path = false)
    ⟨fun apart sect => apart sect sect.mem_all, fun apart sect _ => apart sect⟩

def Valid (stmts : List (Stmt ν)) : Prop := stmts.Pairwise Compatible ∧ ∀ s ∈ stmts, NoClash s

instance (stmts : List (Stmt ν)) : Decidable (Valid stmts) := inferInstanceAs (Decidable (_ ∧ _))

def load (files : FileSystem) (dir : Line) (lines : List Line) : Option (List (Stmt ν)) :=
  (parse format.lex files dir lines).bind fun parsed =>
    if parsed.1.lexState.isNone ∧ Valid parsed.2 then some parsed.2 else none

def descend : List Key → ν → List (Key × ν)
  | [], value => format.inlineRows value
  | key :: keys, value =>
    match (format.inlineRows value).lookup key with
    | none => []
    | some inner => descend keys inner

/-- The rows of the table `path` that an assignment on the way to it holds in its value. -/
def leadingRows (path : Path) : Stmt ν → List (Key × Option ν)
  | .table _ => []
  | .assign base key value =>
    match path.dropPrefix? (base ++ key) with
    | none => []
    | some rest => (descend format (rest.map Seg.key) value).map fun row => (row.1, some row.2)

/-- The keys of the table `path` that a statement defines, with their values. A key whose value is
itself written as a table, by a header or by a dotted key, has none here. -/
def entriesOf (path : Path) (s : Stmt ν) : List (Key × Option ν) :=
  match s.path.dropPrefix? path with
  | some (seg :: rest) => [(seg.key, if rest.isEmpty then s.value else none)]
  | _ => leadingRows format path s

def decodeTable (path : Path) (stmts : List (Stmt ν)) : List (Key × Option ν) :=
  stmts.flatMap (entriesOf format path)

end Save

end Telemt.Config
