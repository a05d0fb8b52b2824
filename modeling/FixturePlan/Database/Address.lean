import FixturePlan.Number.Digits

/-!
# Addresses of databases

What names a database when it is opened is either a plain path or an address. An address begins with
`file:`, which two slashes and a host may follow; the host is empty or this one. Then comes the path. A
question mark introduces options `name=value` with ampersands between them, and a number sign ends
the address.

In path, names and values a percent sign with two hexadecimal digits stands for a byte; a byte of zero
ends the part in which it stands. Of the options, `mode`, `cache` and `vfs` matter here: `mode` may
narrow an access that is already given but never widen it, and `vfs` names what keeps the database.
-/

namespace FixturePlan

/-! ### Access and keepers -/

inductive Access where
  | readOnly
  | readWrite
  /-- Read and write, and create what is missing. -/
  | create
  /-- Keep the database in memory only. -/
  | memory
  deriving DecidableEq, Repr

namespace Access

def ofName? : String → Option Access
  | "ro" => some .readOnly
  | "rw" => some .readWrite
  | "rwc" => some .create
  | "memory" => some .memory
  | _ => none

/-- How far an access to files reaches. -/
def reach : Access → Nat
  | .readOnly => 0
  | .readWrite => 1
  | .create => 2
  | .memory => 3

/-- Whether an access that is given can give way to another. -/
def allows (given asked : Access) : Bool := asked == .memory || asked.reach ≤ given.reach

end Access

inductive Keeper where
  | files
  | memory
  deriving DecidableEq, Repr

namespace Keeper

def ofName? : String → Option Keeper
  | "unix" | "unix-none" | "unix-dotfile" | "unix-excl" => some .files
  | "memdb" => some .memory
  | _ => none

end Keeper

/-! ### Reading an address -/

structure Address where
  path : String
  access : Access
  keeper : Keeper
  deriving DecidableEq, Repr

namespace Address

def decodeBytes : List Char → List UInt8
  | '%' :: a :: b :: rest =>
    match Number.digits? 16 [a, b] with
    | some 0 => []
    | some byte => byte.toUInt8 :: decodeBytes rest
    -- a percent sign without two digits behind it stands for itself
    | none => '%'.toUInt8 :: decodeBytes (a :: b :: rest)
  | c :: rest => (String.singleton c).toUTF8.toList ++ decodeBytes rest
  | [] => []

/-- The text that a part of an address stands for. A part that stands for no text is taken as it is
written. -/
def decode (part : List Char) : String :=
  (String.fromUTF8? (decodeBytes part).toByteArray).getD (String.ofList part)

/-- Cut a text at the first occurrence of a character, which belongs to neither part. -/
def cutAt (mark : Char) (cs : List Char) : List Char × List Char :=
  (cs.takeWhile (· != mark), (cs.dropWhile (· != mark)).drop 1)

theorem length_cutAt_snd_le (mark : Char) (cs : List Char) :
    (cutAt mark cs).2.length ≤ cs.length := by
  rw [cutAt, List.length_drop]
  exact Nat.le_trans (Nat.sub_le _ _) (List.dropWhile_suffix _).length_le

/-- The options of an address in order. An option without a name does not count. -/
def options : List Char → List (String × String)
  | [] => []
  | c :: rest =>
    let (name, value) := cutAt '=' (cutAt '&' (c :: rest)).1
    let others := options (cutAt '&' (c :: rest)).2
    if (decode name).isEmpty then others else (decode name, decode value) :: others
termination_by cs => cs.length
decreasing_by
  by_cases h : c = '&'
  · simp [cutAt, h]
  · have := length_cutAt_snd_le '&' rest
    simp only [cutAt] at this ⊢
    simp only [List.dropWhile_cons, bne_iff_ne, ne_eq, h, not_false_eq_true, if_true, List.length_cons]
    omega

/-- Apply an option; none if it asks for what there is not or what is not allowed. -/
def withOption? (a : Address) : String × String → Option Address
  | ("mode", value) =>
    match Access.ofName? value with
    | some access => if a.access.allows access then some { a with access } else none
    | none => none
  | ("cache", value) => if value = "shared" || value = "private" then some a else none
  | _ => some a

/-- The keeper that the options name, the last of them if there are several. -/
def keeper? (options : List (String × String)) : Option Keeper :=
  match options.reverse.lookup "vfs" with
  | some name => Keeper.ofName? name
  | none => some .files

/-- The path and options that follow the host of an address, which has to be empty or this one. -/
def afterHost? : List Char → Option (List Char)
  | '/' :: '/' :: rest =>
    let host := rest.takeWhile (· != '/')
    if host.isEmpty || host = "localhost".toList then some (rest.drop host.length) else none
  | cs => some cs

/-- Read what follows `file:` in an address. -/
def ofAddress? (cs : List Char) : Option Address := do
  let (path, rest) := cutAt '?' (cutAt '#' (← afterHost? cs)).1
  let options := options rest
  -- every option is applied in turn, but only the last keeper counts
  options.foldlM withOption? ⟨decode path, .create, ← keeper? options⟩

def ofText? (s : String) : Option Address :=
  match s.toList with
  | 'f' :: 'i' :: 'l' :: 'e' :: ':' :: cs => ofAddress? cs
  | cs => if cs.contains '\x00' then none else some ⟨s, .create, .files⟩

def inMemory (a : Address) : Bool :=
  a.keeper == .memory || a.access == .memory || a.path.isEmpty || a.path = ":memory:"

end Address

end FixturePlan
