import XnnTransfer.Protocol.Schema

/-!
# Receive paths

`ValidateReceivePath` and `ValidateReceiveRequest` of
`native/src/storage/path_validator.cpp`.

## Implementation notes

The code points and the normal form come from the utf8proc library, which is a
parameter here. A code point step consumes at least one byte, so the length of
the input bounds the two loops over code points.
-/

namespace XnnTransfer.Storage

def maxRelativePathBytes : Nat := 1024
def maxPathComponents : Nat := 32
def maxPathComponentBytes : Nat := 255
def maxFileBytes : Nat := 17592186044416

inductive ValidationError
  | none
  | pathEmpty
  | pathBytesLimit
  | invalidUtf8
  | pathNotNfc
  | pathAbsolute
  | pathUnc
  | pathDriveAbsolute
  | pathDriveQualified
  | pathBackslash
  | pathColonOrAds
  | pathTrailingSeparator
  | pathNul
  | pathC0Control
  | pathC1Control
  | pathNoncharacter
  | pathEmptyComponent
  | pathDotComponent
  | pathTraversal
  | pathReservedComponent
  | pathComponentCountLimit
  | pathComponentBytesLimit
  | declaredSizeLimit
  deriving DecidableEq, Repr

/-- What the validator asks utf8proc: the code point at the start of a byte
string with the number of bytes it takes, and the composed normal form. -/
structure Unicode where
  iterate : Bytes → Option (Nat × Nat)
  compose : Bytes → Option Bytes

structure ValidatedReceivePath where
  utf8 : Bytes
  components : List Bytes
  deriving DecidableEq, Repr

structure ValidatedReceiveRequest where
  path : ValidatedReceivePath
  declaredSize : Nat
  deriving DecidableEq, Repr

def separator : UInt8 := 0x2f
def backslash : UInt8 := 0x5c
def colon : UInt8 := 0x3a
def dot : UInt8 := 0x2e
def space : UInt8 := 0x20

/-- The bytes of `".xnn-transfer-tmp"`. -/
def reservedTemporaryDirectory : Bytes :=
  [0x2e, 0x78, 0x6e, 0x6e, 0x2d, 0x74, 0x72, 0x61, 0x6e, 0x73, 0x66, 0x65, 0x72, 0x2d, 0x74,
    0x6d, 0x70]

variable (value : UInt8) (component : Bytes) (codepoint : Nat) (unicode : Unicode)
  (encoded path : Bytes)

def isAsciiAlpha : Bool :=
  (0x41 ≤ value && value ≤ 0x5a) || (0x61 ≤ value && value ≤ 0x7a)

def asciiFold : UInt8 :=
  if 0x41 ≤ value ∧ value ≤ 0x5a then value - 0x41 + 0x61 else value

def asciiCaseInsensitiveEquals (left right : Bytes) : Bool :=
  left.map asciiFold = right.map asciiFold

/-- `"CON"`, `"PRN"`, `"AUX"` and `"NUL"`. -/
def reservedStems : List Bytes :=
  [[0x43, 0x4f, 0x4e], [0x50, 0x52, 0x4e], [0x41, 0x55, 0x58], [0x4e, 0x55, 0x4c]]

/-- `"COM"` and `"LPT"`. -/
def reservedPorts : List Bytes := [[0x43, 0x4f, 0x4d], [0x4c, 0x50, 0x54]]

def isWindowsReservedComponent : Bool :=
  if component.getLast? = some dot ∨ component.getLast? = some space then true
  else
    let stem := component.takeWhile (· ≠ dot)
    if reservedStems.any (asciiCaseInsensitiveEquals stem) then true
    else
      match stem with
      | [a, b, c, digit] =>
        if digit < 0x31 ∨ 0x39 < digit then false
        else reservedPorts.any (asciiCaseInsensitiveEquals [a, b, c])
      | _ => false

def isNoncharacter : Bool :=
  (0xfdd0 ≤ codepoint && codepoint ≤ 0xfdef) || codepoint % 65536 = 0xfffe ||
    codepoint % 65536 = 0xffff

def isStrictUtf8 (unicode : Unicode) : Nat → Bytes → Bool
  | _, [] => true
  | 0, _ => false
  | fuel + 1, encoded =>
    match unicode.iterate encoded with
    | none => false
    | some (_, consumed) => isStrictUtf8 unicode fuel (encoded.drop consumed)

def validateCodepoint : ValidationError :=
  if codepoint = 0 then .pathNul
  else if codepoint ≤ 0x1f ∨ codepoint = 0x7f then .pathC0Control
  else if 0x80 ≤ codepoint ∧ codepoint ≤ 0x9f then .pathC1Control
  else if isNoncharacter codepoint then .pathNoncharacter
  else .none

def validateCodepoints (unicode : Unicode) : Nat → Bytes → ValidationError
  | _, [] => .none
  | 0, _ => .invalidUtf8
  | fuel + 1, encoded =>
    match unicode.iterate encoded with
    | none => .invalidUtf8
    | some (codepoint, consumed) =>
      if validateCodepoint codepoint ≠ .none then validateCodepoint codepoint
      else validateCodepoints unicode fuel (encoded.drop consumed)

def isNfc : Bool := unicode.compose encoded = some encoded

/-- The checks on one component, given how many came before it. -/
def validateComponent (previous : Nat) (component : Bytes) : ValidationError :=
  if component = [] then .pathEmptyComponent
  else if component = [dot] then .pathDotComponent
  else if component = [dot, dot] then .pathTraversal
  else if previous = 0 ∧
      asciiCaseInsensitiveEquals component reservedTemporaryDirectory = true then
    .pathReservedComponent
  else if isWindowsReservedComponent component then .pathReservedComponent
  else if maxPathComponents < previous + 1 then .pathComponentCountLimit
  else if maxPathComponentBytes < component.length then .pathComponentBytesLimit
  else .none

def validateComponents : Nat → List Bytes → ValidationError
  | _, [] => .none
  | previous, component :: rest =>
    if validateComponent previous component ≠ .none then validateComponent previous component
    else validateComponents (previous + 1) rest

/-- The path cut at its separators. The source cuts as it checks; a path that
reaches this point does not end in a separator, so every cut is a component. -/
def splitComponents : List Bytes := path.splitOn separator

/-- The checks on how the path begins and on the characters it contains. -/
def validateShape : ValidationError :=
  if path.take 2 = [separator, separator] ∨ path.take 2 = [backslash, backslash] then .pathUnc
  else if path.take 1 = [separator] then .pathAbsolute
  else if (path.take 1).any isAsciiAlpha = true ∧ (path.drop 1).take 1 = [colon] then
    if (path.drop 2).take 1 = [separator] ∨ (path.drop 2).take 1 = [backslash] then
      .pathDriveAbsolute
    else .pathDriveQualified
  else if backslash ∈ path then .pathBackslash
  else if colon ∈ path then .pathColonOrAds
  else if path.getLast? = some separator then .pathTrailingSeparator
  else .none

def validateReceivePath : Except ValidationError ValidatedReceivePath :=
  if encoded = [] then .error .pathEmpty
  else if maxRelativePathBytes < encoded.length then .error .pathBytesLimit
  else if isStrictUtf8 unicode encoded.length encoded = false then .error .invalidUtf8
  else if validateShape encoded ≠ .none then .error (validateShape encoded)
  else if validateCodepoints unicode encoded.length encoded ≠ .none then
    .error (validateCodepoints unicode encoded.length encoded)
  else if isNfc unicode encoded = false then .error .pathNotNfc
  else
    let components := splitComponents encoded
    if validateComponents 0 components ≠ .none then .error (validateComponents 0 components)
    else .ok ⟨encoded, components⟩

def validateReceiveRequest (encodedPath : Bytes) (declaredSize : Nat) (localMaxFileBytes : Nat) :
    Except ValidationError ValidatedReceiveRequest :=
  match validateReceivePath unicode encodedPath with
  | .error error => .error error
  | .ok path =>
    if min localMaxFileBytes maxFileBytes < declaredSize then .error .declaredSizeLimit
    else .ok ⟨path, declaredSize⟩

theorem validateReceiveRequest_ok {unicode : Unicode} {path : Bytes} {size localMax : Nat}
    {request : ValidatedReceiveRequest}
    (h : validateReceiveRequest unicode path size localMax = .ok request) :
    request.declaredSize = size := by
  unfold validateReceiveRequest at h
  split at h
  · cases h
  split at h
  · cases h
  cases h
  rfl

/-! ### Where an accepted path leads -/

/-- A name that stands for an entry of its directory. -/
structure PlainName (component : Bytes) : Prop where
  nonempty : component ≠ []
  here : component ≠ [dot]
  parent : component ≠ [dot, dot]
  unreserved : isWindowsReservedComponent component = false
  length_le : component.length ≤ maxPathComponentBytes

theorem plainName_of_none {previous : Nat} {component : Bytes}
    (h : validateComponent previous component = .none) :
    PlainName component ∧ previous < maxPathComponents ∧
      (previous = 0 → asciiCaseInsensitiveEquals component reservedTemporaryDirectory = false) := by
  unfold validateComponent at h
  split_ifs at h with hempty hdot hparent hfirst hreserved hcount hlength
  refine ⟨⟨hempty, hdot, hparent, by simpa using hreserved, by omega⟩, by omega, fun hzero => ?_⟩
  simpa [hzero] using hfirst

theorem plainNames_of_none {previous : Nat} {components : List Bytes}
    (h : validateComponents previous components = .none) (hprevious : previous ≤ maxPathComponents) :
    (∀ component ∈ components, PlainName component) ∧
      previous + components.length ≤ maxPathComponents ∧
      (previous = 0 → ∀ component ∈ components.head?,
        asciiCaseInsensitiveEquals component reservedTemporaryDirectory = false) := by
  induction components generalizing previous with
  | nil => exact ⟨nofun, hprevious, nofun⟩
  | cons component rest ih =>
    rw [validateComponents] at h
    split at h
    · contradiction
    rename_i hnone
    obtain ⟨hname, hlt, hfirst⟩ := plainName_of_none (not_not.mp hnone)
    obtain ⟨hnames, hcount, -⟩ := ih h hlt
    rw [List.length_cons]
    exact ⟨List.forall_mem_cons.mpr ⟨hname, hnames⟩, by omega, by simpa using hfirst⟩

theorem separator_notMem_of_mem {path component : Bytes} (h : component ∈ splitComponents path) :
    separator ∉ component := by
  induction path generalizing component with
  | nil => simp_all [splitComponents]
  | cons byte rest ih =>
    simp only [splitComponents, List.splitOn] at h ih
    rw [List.splitOnP_cons_eq_if_modifyHead] at h
    cases hrest : rest.splitOnP (· == separator) <;> grind [List.modifyHead]

/-- The directory that a name leads to. -/
def enter (directory : List Bytes) (name : Bytes) : List Bytes :=
  if name = [dot] then directory
  else if name = [dot, dot] then directory.dropLast
  else directory ++ [name]

/-- Plain names lead down from where one starts. -/
theorem foldl_enter (root : List Bytes) {components : List Bytes}
    (h : ∀ component ∈ components, PlainName component) :
    components.foldl enter root = root ++ components := by
  induction components generalizing root with
  | nil => simp
  | cons component rest ih =>
    obtain ⟨hname, hnames⟩ := List.forall_mem_cons.mp h
    rw [List.foldl_cons, ih _ hnames, enter, if_neg hname.here, if_neg hname.parent,
      List.append_assoc]
    rfl

/-- An accepted path is its components joined, these are plain names, and wherever one starts,
each of them leads further down. -/
theorem validateReceivePath_confined {unicode : Unicode} {encoded : Bytes}
    {path : ValidatedReceivePath} (h : validateReceivePath unicode encoded = .ok path) :
    path.utf8 = encoded ∧ [separator].intercalate path.components = encoded ∧
    path.components ≠ [] ∧ path.components.length ≤ maxPathComponents ∧
    (∀ component ∈ path.components, PlainName component ∧ separator ∉ component) ∧
    (backslash ∉ encoded ∧ colon ∉ encoded) ∧
    (∀ component ∈ path.components.head?,
      asciiCaseInsensitiveEquals component reservedTemporaryDirectory = false) ∧
    ∀ root count, (path.components.take count).foldl enter root =
      root ++ path.components.take count := by
  unfold validateReceivePath at h
  split_ifs at h with _ _ _ hshape
  simp only at h
  split_ifs at h with hnames
  cases h
  obtain ⟨hplain, hcount, hfirst⟩ := plainNames_of_none (not_not.mp hnames) (Nat.zero_le _)
  rw [Nat.zero_add] at hcount
  have hmarks : backslash ∉ encoded ∧ colon ∉ encoded := by
    rw [not_not, validateShape] at hshape
    split_ifs at hshape with _ _ _ _ hback hcolon
    exact ⟨hback, hcolon⟩
  exact ⟨rfl, List.intercalate_splitOn separator, List.splitOn_ne_nil _ _,
    hcount, fun component hmem => ⟨hplain component hmem, separator_notMem_of_mem hmem⟩, hmarks,
    hfirst rfl, fun root count => foldl_enter root fun component hmem =>
      hplain component (List.mem_of_mem_take hmem)⟩

theorem validateReceivePath_confined_two :
    [[0x61], [0x62]].foldl enter [[0x72]] = [[0x72], [0x61], [0x62]] :=
  (@validateReceivePath_confined ⟨fun bytes => bytes.head?.map fun byte => (byte.toNat, 1), some⟩
    [0x61, separator, 0x62] ⟨[0x61, separator, 0x62], [[0x61], [0x62]]⟩
    (by decide)).2.2.2.2.2.2.2 [[0x72]] 2

end XnnTransfer.Storage
