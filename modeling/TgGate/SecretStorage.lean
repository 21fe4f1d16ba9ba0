import TgGate.Library.ByteString

namespace TgGate

open Library

/-!
# Secret storage

Secrets reach the program from the operating system: DPAPI protects and
unprotects byte strings under a purpose, and the CSPRNG supplies fresh ones.
Every call may fail and may depend on a state of the world that the call
advances, so `Platform` leaves that state open.
-/

/-- `SecretBuffer::max_size`. -/
def maximumSecretSize : Nat := 4096

/-- The content of a `SecretBuffer` of fixed capacity. -/
structure SecretBuffer where
  content : Bytes := []
  bounded : content.length ≤ maximumSecretSize := by decide
  deriving DecidableEq

namespace SecretBuffer

/-- The constructor from bytes; it throws when the capacity is exceeded. -/
def ofBytes? (content : Bytes) : Option SecretBuffer :=
  if bounded : content.length ≤ maximumSecretSize then
    some ⟨content, bounded⟩
  else
    none

/-- `empty`. -/
def isEmpty (secret : SecretBuffer) : Bool :=
  secret.content.isEmpty

/-- The default constructor. -/
def nothing : SecretBuffer where
  content := []

/-- `clear`. -/
def clear (_secret : SecretBuffer) : SecretBuffer :=
  nothing

@[simp] theorem ofBytes?_eq_some_iff
    {content : Bytes}
    {secret : SecretBuffer} :
    ofBytes? content = some secret ↔ secret.content = content := by
  unfold ofBytes?
  split
  · simp only [Option.some.injEq]
    constructor
    · rintro rfl
      rfl
    · rintro rfl
      rfl
  · next unbounded =>
      simp only [reduceCtorEq, false_iff]
      rintro rfl
      exact unbounded secret.bounded

end SecretBuffer

/-- The operating system's part of keeping secrets. -/
structure Platform (World : Type) where
  /-- `DpapiProtector::protect` of a plain text under a purpose. -/
  protect : Bytes → Bytes → World → Option (Bytes × World)
  /-- `DpapiProtector::unprotect` of a cipher text under a purpose. -/
  unprotect : Bytes → Bytes → World → Option (Bytes × World)
  /-- `SecureRandom::bytes`. -/
  randomBytes : Nat → World → Option (Bytes × World)
  /-- `std::filesystem::exists`. -/
  pathExists : Bytes → World → Bool

/-- A computation that may fail and otherwise advances the world. -/
abbrev Attempt (World Error : Type) :=
  StateT World (Except Error)

namespace Attempt

variable {World Error First Second Value : Type}

/-- Report an error when a platform call fails. -/
def orError
    (call : World → Option (Value × World))
    (error : Error) : Attempt World Error Value :=
  fun world =>
    match call world with
    | none => .error error
    | some result => .ok result

/-- Compute without touching the world. -/
def ofOption
    (result : Option Value)
    (error : Error) : Attempt World Error Value :=
  orError (fun world => result.map (·, world)) error

/-- Stop with an error unless a condition holds. -/
def require
    (condition : Bool)
    (error : Error) : Attempt World Error Unit :=
  ofOption (if condition then some () else none) error

/-- A sequence succeeds when both parts do. -/
theorem bind_eq_ok_iff
    {first : Attempt World Error First}
    {next : First → Attempt World Error Second}
    {world : World}
    {result : Second × World} :
    (first >>= next) world = .ok result ↔
      ∃ value later,
        first world = .ok (value, later) ∧
          next value later = .ok result := by
  change StateT.bind first next world = _ ↔ _
  unfold StateT.bind
  cases ran : first world with
  | error failure =>
      simp [bind, Except.bind]
  | ok outcome =>
      rcases outcome with ⟨value, later⟩
      simp [bind, Except.bind]

theorem bind_of_ok
    {first : Attempt World Error First}
    {next : First → Attempt World Error Second}
    {world later : World}
    {value : First}
    (succeeded : first world = .ok (value, later)) :
    (first >>= next) world = next value later := by
  change StateT.bind first next world = _
  unfold StateT.bind
  rw [succeeded]
  rfl

theorem bind_of_error
    {first : Attempt World Error First}
    {next : First → Attempt World Error Second}
    {world : World}
    {error : Error}
    (failed : first world = .error error) :
    (first >>= next) world = .error error := by
  change StateT.bind first next world = _
  unfold StateT.bind
  rw [failed]
  rfl

@[simp] theorem pure_eq_ok_iff
    {value : Value}
    {world : World}
    {result : Value × World} :
    (pure value : Attempt World Error Value) world = .ok result ↔
      result = (value, world) := by
  change (Except.ok (value, world) : Except Error (Value × World)) = _ ↔ _
  rw [Except.ok.injEq]
  exact eq_comm

@[simp] theorem orError_eq_ok_iff
    {call : World → Option (Value × World)}
    {error : Error}
    {world : World}
    {result : Value × World} :
    orError call error world = .ok result ↔ call world = some result := by
  unfold orError
  cases call world <;> simp

@[simp] theorem ofOption_eq_ok_iff
    {option : Option Value}
    {error : Error}
    {world : World}
    {result : Value × World} :
    ofOption option error world = .ok result ↔
      option = some result.1 ∧ result.2 = world := by
  rcases result with ⟨value, later⟩
  rw [ofOption, orError_eq_ok_iff]
  cases option with
  | none =>
      simp
  | some present =>
      simp [eq_comm]

@[simp] theorem require_eq_ok_iff
    {condition : Bool}
    {error : Error}
    {world : World}
    {result : Unit × World} :
    require condition error world = .ok result ↔
      condition = true ∧ result.2 = world := by
  cases condition <;> simp [require]

end Attempt

end TgGate
