import TgGate.SecretStorage
import TgGate.Library.FixedStorage
import TgGate.Library.MovedObjects

namespace TgGate

open Library

/-!
# Secret buffers in memory

A `SecretBuffer` owns a fixed array and the number of bytes in use.  Buffers are
constructed from bytes, moved into one another and cleared; every move leaves
the source empty, and `clear` writes zeros over the whole array.

The callers' models keep the content of a buffer only.  `Represents` relates an
object to that content: its bytes stand first and zeros fill the rest.  Whatever
is called, the objects are behind the contents that the same calls move.
-/

/-- A `std::vector<unsigned char>` and the memory of its elements. -/
structure ByteVector where
  memory : Bytes
  size : Nat

namespace ByteVector

/-- A vector of the given elements. -/
def ofBytes (value : Bytes) : ByteVector where
  memory := value
  size := value.length

/-- What `data` and `size` show. -/
def elements (vector : ByteVector) : Bytes :=
  vector.memory.take vector.size

@[simp] theorem elements_ofBytes (value : Bytes) :
    (ofBytes value).elements = value :=
  List.take_length

end ByteVector

namespace SecretBuffer

/-- The members of a `SecretBuffer`. -/
structure Object where
  storage : Vector UInt8 maximumSecretSize :=
    Vector.replicate maximumSecretSize 0
  size : Nat := 0

namespace Object

/-- `view`. -/
def view (object : Object) : Bytes :=
  object.storage.toList.take object.size

/-- `clear`, which the destructor calls as well. -/
def clear (object : Object) : Object where
  storage :=
    copyInto object.storage 0 (List.replicate maximumSecretSize 0)
  size := 0

/-- `assign`; it may throw `std::invalid_argument`. -/
def assign (object : Object) (source : Bytes) : Except Bytes Object :=
  if source.length > maximumSecretSize then
    .error (bytes "SecretBuffer exceeds the fixed capacity")
  else
    .ok {
      storage :=
        if source.length ≠ 0 then
          copyInto object.storage 0 source
        else
          object.storage
      size := source.length
    }

/-- `wipe_external`. -/
def wipeExternal (value : ByteVector) : ByteVector :=
  if value.size = 0 then
    value
  else
    { memory :=
        List.replicate value.size 0 ++ value.memory.drop value.size
      size := 0 }

/-- The constructor from a `std::string_view`. -/
def ofView (value : Bytes) : Except Bytes Object :=
  assign {} value

/-- The constructor that copies a vector. -/
def ofVector (value : ByteVector) : Except Bytes Object :=
  assign {} value.elements

/-- The constructor that takes a vector, and what it leaves of it. -/
def ofMovedVector
    (value : ByteVector) : Except Bytes (Object × ByteVector) := do
  let object ← assign {} value.elements
  return (object, wipeExternal value)

/-- The move constructor. -/
def moveConstruct
    (buffers : List Object)
    (other : Nat) : List Object :=
  match buffers[other]? with
  | none => buffers
  | some object =>
      buffers.modify other clear ++
        [{ storage := object.storage, size := object.size }]

/-- The move assignment. -/
def moveAssign
    (buffers : List Object)
    (target other : Nat) : List Object :=
  if target ≠ other then
    let cleared := buffers.modify target clear
    match cleared[other]? with
    | none => buffers
    | some object =>
        (cleared.set target
          { storage := object.storage, size := object.size }).modify
            other clear
  else
    buffers

end Object

/-- The constructors that read bytes. -/
inductive Overload
  | view
  | vector
  | movedVector
  deriving DecidableEq

/-- The construction of a buffer. -/
inductive Construction
  | default
  | ofBytes (overload : Overload) (value : Bytes)

/-- The object that a constructor sets up. -/
def Construction.object : Construction → Except Bytes Object
  | .default => .ok {}
  | .ofBytes .view value => Object.ofView value
  | .ofBytes .vector value => Object.ofVector (.ofBytes value)
  | .ofBytes .movedVector value =>
      (Object.ofMovedVector (.ofBytes value)).map Prod.fst

/-- The content that the callers' models give the new buffer. -/
def Construction.content? : Construction → Option SecretBuffer
  | .default => some nothing
  | .ofBytes _ value => ofBytes? value

/-- A call on buffers that exist; the text is that of an exception. -/
def perform
    (buffers : List Object) :
    ObjectCall Construction → List Object × Option Bytes
  | .construct construction =>
      match construction.object with
      | .error message => (buffers, some message)
      | .ok object => (buffers ++ [object], none)
  | .moveConstruct other => (Object.moveConstruct buffers other, none)
  | .moveAssign target other =>
      (Object.moveAssign buffers target other, none)
  | .clear target => (buffers.modify target Object.clear, none)

/-- The buffers of a program; a call that names no buffer is none. -/
def objectMachine :
    Machine (List Object) (ObjectCall Construction) (Option Bytes) where
  initial := []
  step := fun buffers call =>
    if call.Valid buffers.length then
      perform buffers call
    else
      (buffers, none)

/-- The buffers as their callers see them: contents that are moved. -/
def contentMachine :
    Machine (List SecretBuffer) (ObjectCall Construction) Unit :=
  valueMachine Construction.content? nothing

namespace Object

/-- An object behind a secret: its bytes, then zeros. -/
structure Represents (object : Object) (secret : SecretBuffer) : Prop where
  size_eq : object.size = secret.content.length
  storage_eq :
    object.storage.toList =
      secret.content ++
        List.replicate (maximumSecretSize - secret.content.length) 0

variable {object other : Object} {secret : SecretBuffer}

theorem view_of_represents
    (represents : object.Represents secret) :
    object.view = secret.content := by
  rw [view, represents.storage_eq, represents.size_eq,
    List.take_left]

theorem represents_default :
    Represents {} nothing where
  size_eq := rfl
  storage_eq := by
    rw [Vector.toList_replicate]
    rfl

/-- Clearing leaves nothing of what was stored. -/
@[simp] theorem clear_eq (object : Object) :
    object.clear = {} := by
  rw [clear, copyInto_replicate]

/-- A new object holds the bytes that are assigned to it. -/
theorem exists_assign
    {source : Bytes}
    (fits : source.length ≤ maximumSecretSize) :
    ∃ object,
      assign {} source = .ok object ∧
        object.Represents ⟨source, fits⟩ := by
  refine ⟨_, if_neg (Nat.not_lt.mpr fits), rfl, ?_⟩
  cases source with
  | nil =>
      exact represents_default.storage_eq
  | cons byte rest =>
      rw [if_pos (by simp), toList_copyInto_zero fits,
        Vector.toList_replicate, List.drop_replicate]

theorem assign_of_exceeds
    {source : Bytes}
    (exceeds : maximumSecretSize < source.length) :
    assign object source =
      .error (bytes "SecretBuffer exceeds the fixed capacity") :=
  if_pos exceeds

end Object

open Object

/-- All constructors from bytes do the same with the new buffer. -/
@[simp] theorem object_ofBytes
    (overload : Overload)
    (value : Bytes) :
    (Construction.ofBytes overload value).object = assign {} value := by
  cases overload with
  | view =>
      rfl
  | vector =>
      rw [Construction.object, ofVector, ByteVector.elements_ofBytes]
  | movedVector =>
      rw [Construction.object, ofMovedVector,
        ByteVector.elements_ofBytes]
      cases assign {} value <;> rfl

/-- The callers' model of the constructors. -/
theorem represents_content?
    (construction : Construction) :
    Option.Rel Represents
      construction.object.toOption construction.content? := by
  cases construction with
  | default =>
      exact .some represents_default
  | ofBytes overload value =>
      rw [object_ofBytes, Construction.content?, ofBytes?]
      split
      · next fits =>
          obtain ⟨object, assigned, represents⟩ := exists_assign fits
          rw [assigned]
          exact .some represents
      · next exceeds =>
          rw [assign_of_exceeds (Nat.lt_of_not_le exceeds)]
          exact .none

theorem step_of_valid
    {buffers : List Object}
    {call : ObjectCall Construction}
    (valid : call.Valid buffers.length) :
    objectMachine.step buffers call = perform buffers call :=
  if_pos valid

theorem modify_clear
    (buffers : List Object)
    (index : Nat) :
    buffers.modify index Object.clear = buffers.set index {} := by
  have : Inhabited Object := ⟨{}⟩
  rw [List.modify_eq_set, clear_eq]

theorem moveConstruct_of_some
    {buffers : List Object}
    {object : Object}
    {other : Nat}
    (found : buffers[other]? = some object) :
    Object.moveConstruct buffers other =
      buffers.set other {} ++ [object] := by
  rw [Object.moveConstruct, found, modify_clear]

theorem moveAssign_of_ne
    {buffers : List Object}
    {object : Object}
    {target other : Nat}
    (differs : target ≠ other)
    (found : buffers[other]? = some object) :
    Object.moveAssign buffers target other =
      (buffers.set target object).set other {} := by
  have still : (buffers.set target {})[other]? = some object := by
    rw [List.getElem?_set_ne differs, found]
  rw [Object.moveAssign, if_pos differs]
  simp only [modify_clear, still, List.set_set]

/-- Buffers are moved as the language's move semantics say. -/
theorem moveSemantics :
    MoveSemantics objectMachine (·.object.toOption) {} where
  construct := by
    intro buffers construction
    have valid :
        (ObjectCall.construct construction).Valid buffers.length :=
      trivial
    rw [step_of_valid valid, perform]
    cases construction.object with
    | error message =>
        exact (List.append_nil buffers).symm
    | ok object =>
        rfl
  moveConstruct := by
    intro buffers source object found
    have valid :
        (ObjectCall.moveConstruct source : ObjectCall Construction).Valid
          buffers.length :=
      (List.getElem?_eq_some_iff.mp found).1
    rw [step_of_valid valid, perform, moveConstruct_of_some found]
  moveAssign := by
    intro buffers target source object inside found differs
    have valid :
        (ObjectCall.moveAssign target source :
          ObjectCall Construction).Valid buffers.length :=
      ⟨inside, (List.getElem?_eq_some_iff.mp found).1⟩
    rw [step_of_valid valid, perform, moveAssign_of_ne differs found]
  selfAssign := by
    intro buffers target
    unfold objectMachine
    dsimp only
    split
    · rw [perform, Object.moveAssign, if_neg (not_not.mpr rfl)]
    · rfl
  clear := by
    intro buffers target inside
    have valid :
        (ObjectCall.clear target : ObjectCall Construction).Valid
          buffers.length :=
      inside
    rw [step_of_valid valid, perform, modify_clear]
  invalid := by
    intro buffers call invalid
    exact congrArg Prod.fst (if_neg invalid)

/-- The buffers of a run are behind the contents that are moved. -/
theorem represents_state (calls : List (ObjectCall Construction)) :
    List.Forall₂ Represents
      (objectMachine.state calls) (contentMachine.state calls) :=
  moveSemantics.forall₂_stateFrom
    (moveSemantics_valueMachine Construction.content? nothing)
    represents_content? represents_default .nil calls

theorem exists_represents
    {calls : List (ObjectCall Construction)}
    {object : Object}
    (member : object ∈ objectMachine.state calls) :
    ∃ secret, object.Represents secret := by
  obtain ⟨index, inside, rfl⟩ := List.getElem_of_mem member
  obtain ⟨object, secret, found, -, represents⟩ :=
    exists_related_at (represents_state calls) inside
  rw [List.getElem?_eq_getElem inside, Option.some.injEq] at found
  rw [found]
  exact ⟨secret, represents⟩

/-- The construction of a buffer from a secret, as a call. -/
abbrev construct
    (overload : Overload)
    (secret : Bytes) : ObjectCall Construction :=
  .construct (.ofBytes overload secret)

/-- The last buffer a secret is moved to, if it is not lost before. -/
def lastMovedTo
    (before : List (ObjectCall Construction))
    (overload : Overload)
    (secret : Bytes)
    (after : List (ObjectCall Construction)) : Option Nat :=
  whereabouts objectMachine
    (objectMachine.state (before ++ [construct overload secret]))
    (objectMachine.state before).length after

/-- A buffer would be another one if another secret were constructed. -/
def Reveals
    (before : List (ObjectCall Construction))
    (overload : Overload)
    (secret : Bytes)
    (after : List (ObjectCall Construction))
    (index : Nat) : Prop :=
  ∃ other : Bytes,
    other.length ≤ maximumSecretSize ∧
      (objectMachine.state
          (before ++ construct overload other :: after))[index]? ≠
        (objectMachine.state
          (before ++ construct overload secret :: after))[index]?

/-- What holds of the buffers that a run of calls leaves. -/
structure KeepsSecrets
    (calls : List (ObjectCall Construction)) : Prop where
  /-- The array holds zeros beyond the bytes in use. -/
  zeroBeyond :
    ∀ object ∈ objectMachine.state calls,
      object.size ≤ maximumSecretSize ∧
        ∀ position (inside : position < maximumSecretSize),
          object.size ≤ position →
          object.storage[position] = 0
  /-- One buffer shows a secret: the one it was last moved to. -/
  revealedOnce :
    ∀ {before after : List (ObjectCall Construction)}
      {overload : Overload} {secret : Bytes},
      calls = before ++ construct overload secret :: after →
      secret.length ≤ maximumSecretSize →
      ∀ index,
        Reveals before overload secret after index ↔
          lastMovedTo before overload secret after = some index
  /-- That buffer shows the bytes it was constructed from. -/
  viewed :
    ∀ {before after : List (ObjectCall Construction)}
      {overload : Overload} {secret : Bytes} {index : Nat},
      calls = before ++ construct overload secret :: after →
      secret.length ≤ maximumSecretSize →
      lastMovedTo before overload secret after = some index →
      ∃ object,
        (objectMachine.state calls)[index]? = some object ∧
          object.view = secret
  /-- A buffer that was cleared or moved from is empty until it is filled. -/
  emptied :
    ∀ {before after : List (ObjectCall Construction)}
      {call : ObjectCall Construction} {index : Nat},
      calls = before ++ call :: after →
      call.Valid (objectMachine.state before).length →
      call.Empties index →
      (∀ later ∈ after, ¬ later.Fills index) →
      ∃ object,
        (objectMachine.state calls)[index]? = some object ∧
          object.size = 0 ∧
          ∀ byte ∈ object.storage, byte = 0

section Owner

variable {before after : List (ObjectCall Construction)}
variable {overload : Overload}
variable {secret : Bytes}
variable {index : Nat}

theorem state_append_cons
    (before : List (ObjectCall Construction))
    (call : ObjectCall Construction)
    (after : List (ObjectCall Construction)) :
    objectMachine.state (before ++ call :: after) =
      objectMachine.stateFrom
        (objectMachine.state (before ++ [call])) after := by
  rw [Machine.state, List.append_cons, Machine.stateFrom_append]
  rfl

/-- The new buffer stands behind the others. -/
theorem exists_constructed
    (before : List (ObjectCall Construction))
    (overload : Overload)
    (fits : secret.length ≤ maximumSecretSize) :
    ∃ object : Object,
      object.Represents ⟨secret, fits⟩ ∧
        objectMachine.state
            (before ++ [construct overload secret]) =
          objectMachine.state before ++ [object] := by
  obtain ⟨object, assigned, represents⟩ := exists_assign fits
  refine ⟨object, represents, ?_⟩
  rw [Machine.state_snoc, moveSemantics.construct, object_ofBytes,
    assigned]
  rfl

/-- Another secret in its place overwrites the new buffer. -/
theorem exists_state_with_other
    {other : Bytes}
    (fits : secret.length ≤ maximumSecretSize)
    (otherFits : other.length ≤ maximumSecretSize) :
    ∃ object : Object,
      object.Represents ⟨other, otherFits⟩ ∧
        objectMachine.state
            (before ++ construct overload other :: after) =
          objectMachine.stateFrom
            ((objectMachine.state
                (before ++ [construct overload secret])).set
              (objectMachine.state before).length object) after := by
  obtain ⟨object, represents, constructed⟩ :=
    exists_constructed before overload fits
  obtain ⟨otherObject, otherRepresents, otherConstructed⟩ :=
    exists_constructed before overload otherFits
  refine ⟨otherObject, otherRepresents, ?_⟩
  rw [state_append_cons, otherConstructed, constructed]
  simp

/-- The new buffer is one of the buffers. -/
theorem length_lt_constructed
    (fits : secret.length ≤ maximumSecretSize) :
    (objectMachine.state before).length <
      (objectMachine.state
        (before ++ [construct overload secret])).length := by
  obtain ⟨object, -, constructed⟩ :=
    exists_constructed before overload fits
  rw [constructed]
  simp

/-- The secret arrives as it was constructed. -/
theorem exists_represents_lastMovedTo
    (fits : secret.length ≤ maximumSecretSize)
    (moved : lastMovedTo before overload secret after = some index) :
    ∃ object : Object,
      object.Represents ⟨secret, fits⟩ ∧
        (objectMachine.state
            (before ++ construct overload secret :: after))[index]? =
          some object := by
  obtain ⟨object, represents, constructed⟩ :=
    exists_constructed before overload fits
  refine ⟨object, represents, ?_⟩
  rw [state_append_cons,
    moveSemantics.getElem?_whereabouts
      (length_lt_constructed fits) moved,
    constructed]
  simp

/-- A buffer that the secret was not moved to does not depend on it. -/
theorem not_reveals_of_ne
    (fits : secret.length ≤ maximumSecretSize)
    (elsewhere :
      lastMovedTo before overload secret after ≠ some index) :
    ¬ Reveals before overload secret after index := by
  rintro ⟨other, otherFits, differs⟩
  obtain ⟨object, -, replaced⟩ :=
    exists_state_with_other fits otherFits
  rw [replaced,
    moveSemantics.getElem?_stateFrom_set
      (length_lt_constructed fits) elsewhere,
    ← state_append_cons] at differs
  exact differs rfl

/-- The buffer that the secret was moved to depends on it. -/
theorem reveals_of_lastMovedTo
    (fits : secret.length ≤ maximumSecretSize)
    (moved : lastMovedTo before overload secret after = some index) :
    Reveals before overload secret after index := by
  -- Every secret can be told from another one.
  obtain ⟨other, otherFits, different⟩ :
      ∃ other : Bytes,
        other.length ≤ maximumSecretSize ∧ other ≠ secret := by
    cases secret with
    | nil =>
        exact ⟨[0], by decide, by simp⟩
    | cons byte rest =>
        exact ⟨[], by decide, by simp⟩
  refine ⟨other, otherFits, fun same => different ?_⟩
  obtain ⟨object, represents, shown⟩ :=
    exists_represents_lastMovedTo fits moved
  obtain ⟨otherObject, otherRepresents, replaced⟩ :=
    @exists_state_with_other before after overload secret other
      fits otherFits
  have otherShown :=
    moveSemantics.getElem?_stateFrom_set_self
      (length_lt_constructed fits) moved otherObject
  rw [← replaced, same, shown, Option.some.injEq] at otherShown
  have sameView := congrArg Object.view otherShown
  rw [view_of_represents represents,
    view_of_represents otherRepresents] at sameView
  exact sameView.symm

end Owner

theorem zeroBeyond_of_represents
    {object : Object}
    {secret : SecretBuffer}
    (represents : object.Represents secret)
    {position : Nat}
    (inside : position < maximumSecretSize)
    (beyond : object.size ≤ position) :
    object.storage[position] = 0 := by
  have present : position < object.storage.toList.length := by
    rwa [Vector.length_toList]
  rw [represents.size_eq] at beyond
  rw [← Vector.getElem_toList present]
  simp only [represents.storage_eq,
    List.getElem_append_right beyond, List.getElem_replicate]

/-- Secrets have one owner and leave no residue. -/
theorem keepsSecrets (calls : List (ObjectCall Construction)) :
    KeepsSecrets calls where
  zeroBeyond := by
    intro object member
    obtain ⟨secret, represents⟩ := exists_represents member
    refine ⟨?_, fun position inside beyond =>
      zeroBeyond_of_represents represents inside beyond⟩
    rw [represents.size_eq]
    exact secret.bounded
  revealedOnce := by
    rintro before after overload secret - fits index
    constructor
    · intro revealed
      by_contra elsewhere
      exact not_reveals_of_ne fits elsewhere revealed
    · exact reveals_of_lastMovedTo fits
  viewed := by
    rintro before after overload secret index rfl fits moved
    obtain ⟨object, represents, shown⟩ :=
      exists_represents_lastMovedTo fits moved
    exact ⟨object, shown, view_of_represents represents⟩
  emptied := by
    rintro before after call index rfl valid empties unfilled
    have emptiedNow := moveSemantics.vacant_of_empties valid empties
    rw [← Machine.state_snoc] at emptiedNow
    refine ⟨{}, ?_, rfl, fun byte member => ?_⟩
    · rw [state_append_cons]
      exact moveSemantics.vacant_stateFrom emptiedNow unfilled
    · exact (Vector.mem_replicate.mp member).2

/-- A secret is moved over an empty buffer, and that buffer into itself. -/
example :
    lastMovedTo [.construct .default] .movedVector (bytes "secret")
      [.moveAssign 0 1, .moveAssign 0 0] = some 0 := by
  decide

end SecretBuffer

end TgGate
