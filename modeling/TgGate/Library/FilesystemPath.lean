import TgGate.Library.ByteString

namespace TgGate.Library

/-!
# `std::filesystem::path`

A path is its native pathname in POSIX syntax, so `string` returns it unchanged.
`generic_string` joins its elements again and writes repeated separators as one;
two paths compare equal if it gives them one text.  `lexicallyNormal` follows the
rewriting steps by which the C++ standard defines the normal form of a relative
path.
-/

/-- A path in POSIX syntax. -/
abbrev FilesystemPath := Bytes

namespace FilesystemPath

/-- The special filename for the same directory. -/
def dot : Bytes := bytes "."

/-- The special filename for the parent directory. -/
def dotDot : Bytes := bytes ".."

/-- `is_absolute`: the path has a root directory. -/
def isAbsolute (path : FilesystemPath) : Bool :=
  path.head? = some 47

/-- `generic_string`: repeated separators are written as one. -/
def genericString : FilesystemPath → Bytes
  | [] => []
  | byte :: rest =>
      if byte = 47 ∧ rest.head? = some 47 then
        genericString rest
      else
        byte :: genericString rest

/-- The filenames between the separators. -/
def filenames (path : FilesystemPath) : List Bytes :=
  (path.splitOn 47).filter fun name => !name.isEmpty

/-- Remove the first filename that a dot-dot follows, with that dot-dot. -/
def cancelFirst : List Bytes → Option (List Bytes)
  | first :: second :: rest =>
      if first ≠ dotDot ∧ second = dotDot then
        some rest
      else
        (cancelFirst (second :: rest)).map (first :: ·)
  | _ => none

/-- Repeat `cancelFirst` as long as it applies. -/
def cancelAll : Nat → List Bytes → List Bytes
  | 0, names => names
  | fuel + 1, names =>
      match cancelFirst names with
      | some shorter => cancelAll fuel shorter
      | none => names

/--
The components of `lexically_normal` of a relative path.  The empty component
that a trailing separator leaves at the end is not listed.
-/
def lexicallyNormal (path : FilesystemPath) : List Bytes :=
  let names := (filenames path).filter (· ≠ dot)
  match cancelAll names.length names with
  | [] => [dot]
  | normal => normal

/-- A cancellation removes two filenames. -/
theorem length_of_cancelFirst
    {names shorter : List Bytes}
    (cancelled : cancelFirst names = some shorter) :
    names.length = shorter.length + 2 := by
  induction names generalizing shorter with
  | nil =>
      cases cancelled
  | cons first rest inductionHypothesis =>
      cases rest with
      | nil =>
          cases cancelled
      | cons second rest =>
          unfold cancelFirst at cancelled
          split at cancelled
          · obtain rfl := Option.some.inj cancelled
            rfl
          · obtain ⟨inner, innerCancelled, rfl⟩ :=
              Option.map_eq_some_iff.mp cancelled
            have innerLength := inductionHypothesis innerCancelled
            simp only [List.length_cons] at innerLength ⊢
            omega

/-- As many rounds as there are filenames are enough. -/
theorem cancelFirst_cancelAll
    {fuel : Nat}
    {names : List Bytes}
    (enough : names.length ≤ fuel) :
    cancelFirst (cancelAll fuel names) = none := by
  induction fuel generalizing names with
  | zero =>
      obtain rfl := List.length_eq_zero_iff.mp (Nat.le_zero.mp enough)
      rfl
  | succ fuel inductionHypothesis =>
      unfold cancelAll
      split
      · next shorter cancelled =>
          have shorterLength := length_of_cancelFirst cancelled
          exact inductionHypothesis (by omega)
      · next finished =>
          exact finished

section GenericString

@[simp] theorem head?_genericString (path : FilesystemPath) :
    (genericString path).head? = path.head? := by
  induction path with
  | nil =>
      rfl
  | cons byte rest inductionHypothesis =>
      unfold genericString
      split
      · next repeated =>
          rw [inductionHypothesis, repeated.2, repeated.1]
          rfl
      · rfl

@[simp] theorem isEmpty_genericString (path : FilesystemPath) :
    (genericString path).isEmpty = path.isEmpty := by
  have same := head?_genericString path
  cases path with
  | nil =>
      rfl
  | cons byte rest =>
      cases written : genericString (byte :: rest) with
      | nil =>
          rw [written] at same
          cases same
      | cons =>
          rfl

@[simp] theorem isAbsolute_genericString (path : FilesystemPath) :
    isAbsolute (genericString path) = isAbsolute path := by
  simp only [isAbsolute, head?_genericString]

/-- A generic spelling is its own generic spelling. -/
@[simp] theorem genericString_genericString (path : FilesystemPath) :
    genericString (genericString path) = genericString path := by
  induction path with
  | nil =>
      rfl
  | cons byte rest inductionHypothesis =>
      by_cases repeated : byte = 47 ∧ rest.head? = some 47
      · rw [genericString, if_pos repeated, inductionHypothesis]
      · have unrepeated :
            ¬ (byte = 47 ∧ (genericString rest).head? = some 47) := by
          rwa [head?_genericString]
        rw [genericString, if_neg repeated, genericString,
          if_neg unrepeated, inductionHypothesis]

/-- A separator ends a filename. -/
theorem filenames_append_cons (first rest : FilesystemPath) :
    filenames (first ++ 47 :: rest) = filenames first ++ filenames rest := by
  unfold filenames
  rw [List.splitOn_append_cons_self, List.filter_append]

/-- The filenames stay, also behind the beginning of a path. -/
theorem filenames_append_genericString (first path : FilesystemPath) :
    filenames (first ++ genericString path) = filenames (first ++ path) := by
  induction path generalizing first with
  | nil =>
      rfl
  | cons byte rest inductionHypothesis =>
      by_cases repeated : byte = 47 ∧ rest.head? = some 47
      · rw [genericString, if_pos repeated, inductionHypothesis]
        obtain ⟨rfl, starts⟩ := repeated
        obtain ⟨later, rfl⟩ := List.head?_eq_some_iff.mp starts
        have merged := filenames_append_cons [] later
        rw [filenames_append_cons, filenames_append_cons]
        exact congrArg _ merged.symm
      · rw [genericString, if_neg repeated]
        have continued := inductionHypothesis (first ++ [byte])
        rwa [List.append_assoc, List.append_assoc,
          List.singleton_append, List.singleton_append] at continued

@[simp] theorem filenames_genericString (path : FilesystemPath) :
    filenames (genericString path) = filenames path :=
  filenames_append_genericString [] path

@[simp] theorem lexicallyNormal_genericString (path : FilesystemPath) :
    lexicallyNormal (genericString path) = lexicallyNormal path := by
  simp only [lexicallyNormal, filenames_genericString]

end GenericString

end FilesystemPath

end TgGate.Library
