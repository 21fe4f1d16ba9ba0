import TgGate.Library.Machine
import TgGate.Library.Pool

namespace TgGate.Library

/-!
# Objects that are moved

A program constructs objects, moves them into one another and clears them.  The
objects form a list and are named by their positions.  With move semantics an
object that is moved from is left vacant, as a cleared one is, and moving an
object into itself changes nothing.

What an object holds is then in one place at a time.  `whereabouts` follows it
through a run.  Overwriting the object before the run overwrites that place
afterwards and no other, so nothing else in the state depends on it.
-/

/-- A call on a list of objects. -/
inductive ObjectCall (Source : Type)
  | construct (source : Source)
  | moveConstruct (source : Nat)
  | moveAssign (target source : Nat)
  | clear (target : Nat)
  deriving DecidableEq

namespace ObjectCall

variable {Source : Type}

/-- The objects that a call names exist. -/
def Valid (count : Nat) : ObjectCall Source → Prop
  | .construct _ => True
  | .moveConstruct source => source < count
  | .moveAssign target source => target < count ∧ source < count
  | .clear target => target < count

instance (count : Nat) (call : ObjectCall Source) :
    Decidable (call.Valid count) :=
  match call with
  | .construct _ => .isTrue trivial
  | .moveConstruct source => Nat.decLt source count
  | .moveAssign target source =>
      inferInstanceAs (Decidable (target < count ∧ source < count))
  | .clear target => Nat.decLt target count

/-- The object is cleared, or moved into another one. -/
def Empties (index : Nat) : ObjectCall Source → Prop
  | .construct _ => False
  | .moveConstruct source => source = index
  | .moveAssign target source => source = index ∧ target ≠ index
  | .clear target => target = index

/-- Another object is moved into this one. -/
def Fills (index : Nat) : ObjectCall Source → Prop
  | .moveAssign target source => target = index ∧ source ≠ index
  | _ => False

/-- Where a call takes what an object holds; `none` if it is lost. -/
def follow (count index : Nat) (call : ObjectCall Source) : Option Nat :=
  if call.Valid count then
    match call with
    | .construct _ => some index
    | .moveConstruct source =>
        some (if source = index then count else index)
    | .moveAssign target source =>
        if target = source then some index
        else if source = index then some target
        else if target = index then none
        else some index
    | .clear target => if target = index then none else some index
  else some index

theorem follow_of_not_valid
    {count index : Nat}
    {call : ObjectCall Source}
    (invalid : ¬ call.Valid count) :
    call.follow count index = some index :=
  if_neg invalid

end ObjectCall

variable {Object Source Output : Type}

/--
What a machine does with its objects.  `create` is the constructor, which may
fail, and `vacant` is what moving and clearing leave behind.
-/
structure MoveSemantics
    (machine : Machine (List Object) (ObjectCall Source) Output)
    (create : Source → Option Object)
    (vacant : Object) : Prop where
  construct :
    ∀ objects source,
      (machine.step objects (.construct source)).1 =
        objects ++ (create source).toList
  moveConstruct :
    ∀ {objects source object},
      objects[source]? = some object →
      (machine.step objects (.moveConstruct source)).1 =
        objects.set source vacant ++ [object]
  moveAssign :
    ∀ {objects target source object},
      target < objects.length →
      objects[source]? = some object →
      target ≠ source →
      (machine.step objects (.moveAssign target source)).1 =
        (objects.set target object).set source vacant
  selfAssign :
    ∀ objects target,
      (machine.step objects (.moveAssign target target)).1 = objects
  clear :
    ∀ {objects target},
      target < objects.length →
      (machine.step objects (.clear target)).1 =
        objects.set target vacant
  invalid :
    ∀ {objects call},
      ¬ call.Valid objects.length →
      (machine.step objects call).1 = objects

/-- Where a run takes what an object holds. -/
def whereabouts
    (machine : Machine (List Object) (ObjectCall Source) Output) :
    List Object → Nat → List (ObjectCall Source) → Option Nat
  | _, index, [] => some index
  | objects, index, call :: rest =>
      (call.follow objects.length index).bind fun next =>
        whereabouts machine (machine.step objects call).1 next rest

/-- Overwrite an object, if there is one to overwrite. -/
def overwriteAt
    (place? : Option Nat)
    (other : Object)
    (objects : List Object) : List Object :=
  match place? with
  | none => objects
  | some place => objects.set place other

namespace MoveSemantics

variable {machine : Machine (List Object) (ObjectCall Source) Output}
variable {create : Source → Option Object}
variable {vacant object other : Object}
variable {objects : List Object}
variable {index place : Nat}
variable {call : ObjectCall Source}

/-- Overwriting an object before a move construction. -/
theorem moveConstruct_set
    (semantics : MoveSemantics machine create vacant)
    {source : Nat}
    (inside : index < objects.length)
    (valid : source < objects.length) :
    (machine.step (objects.set index other) (.moveConstruct source)).1 =
      overwriteAt
        (some (if source = index then objects.length else index)) other
        (machine.step objects (.moveConstruct source)).1 := by
  have found : objects[source]? = some objects[source] :=
    List.getElem?_eq_getElem valid
  rw [semantics.moveConstruct found]
  by_cases same : source = index
  · subst same
    have overwritten :
        (objects.set source other)[source]? = some other :=
      List.getElem?_set_self inside
    rw [semantics.moveConstruct overwritten]
    simp [overwriteAt]
  · have kept :
        (objects.set index other)[source]? = some objects[source] := by
      rw [List.getElem?_set_ne (Ne.symm same), found]
    rw [semantics.moveConstruct kept, List.set_comm _ _ (Ne.symm same)]
    simp [same, overwriteAt, inside]

/-- Overwriting an object before a move assignment. -/
theorem moveAssign_set
    (semantics : MoveSemantics machine create vacant)
    {target source : Nat}
    (inside : index < objects.length)
    (valid : target < objects.length)
    (present : source < objects.length) :
    (machine.step
        (objects.set index other) (.moveAssign target source)).1 =
      overwriteAt
        (if target = source then some index
          else if source = index then some target
          else if target = index then none
          else some index) other
        (machine.step objects (.moveAssign target source)).1 := by
  have found : objects[source]? = some objects[source] :=
    List.getElem?_eq_getElem present
  have stillValid : target < (objects.set index other).length := by
    rwa [List.length_set]
  by_cases self : target = source
  · subst self
    rw [semantics.selfAssign, semantics.selfAssign, if_pos rfl]
    rfl
  rw [if_neg self, semantics.moveAssign valid found self]
  by_cases fromHere : source = index
  · subst fromHere
    have overwritten :
        (objects.set source other)[source]? = some other :=
      List.getElem?_set_self inside
    rw [if_pos rfl, semantics.moveAssign stillValid overwritten self,
      List.set_comm _ _ (Ne.symm self), List.set_set, overwriteAt,
      List.set_comm _ _ (Ne.symm self), List.set_set]
  have kept :
      (objects.set index other)[source]? = some objects[source] := by
    rw [List.getElem?_set_ne (Ne.symm fromHere), found]
  rw [if_neg fromHere, semantics.moveAssign stillValid kept self]
  by_cases lost : target = index
  · subst lost
    rw [if_pos rfl, List.set_set]
    rfl
  · rw [if_neg lost, List.set_comm _ _ (Ne.symm lost),
      List.set_comm _ _ (Ne.symm fromHere)]
    rfl

/-- Overwriting an object before a clear. -/
theorem clear_set
    (semantics : MoveSemantics machine create vacant)
    {target : Nat}
    (valid : target < objects.length) :
    (machine.step (objects.set index other) (.clear target)).1 =
      overwriteAt (if target = index then none else some index) other
        (machine.step objects (.clear target)).1 := by
  rw [semantics.clear valid,
    semantics.clear (by rwa [List.length_set])]
  by_cases same : target = index
  · rw [if_pos same, same, List.set_set]
    rfl
  · rw [if_neg same, List.set_comm _ _ (Ne.symm same)]
    rfl

/-- Overwriting an object before a call. -/
theorem step_set
    (semantics : MoveSemantics machine create vacant)
    (inside : index < objects.length)
    (call : ObjectCall Source) :
    (machine.step (objects.set index other) call).1 =
      overwriteAt (call.follow objects.length index) other
        (machine.step objects call).1 := by
  by_cases valid : call.Valid objects.length
  · unfold ObjectCall.follow
    rw [if_pos valid]
    cases call with
    | construct source =>
        rw [semantics.construct, semantics.construct,
          ← List.set_append_left _ _ inside]
        rfl
    | moveConstruct source =>
        exact semantics.moveConstruct_set inside valid
    | moveAssign target source =>
        exact semantics.moveAssign_set inside valid.1 valid.2
    | clear target =>
        exact semantics.clear_set valid
  · rw [ObjectCall.follow_of_not_valid valid, semantics.invalid valid,
      semantics.invalid (by rwa [List.length_set])]
    rfl

/-- The list only grows. -/
theorem length_le_step
    (semantics : MoveSemantics machine create vacant)
    (objects : List Object)
    (call : ObjectCall Source) :
    objects.length ≤ (machine.step objects call).1.length := by
  by_cases valid : call.Valid objects.length
  · cases call with
    | construct source =>
        rw [semantics.construct, List.length_append]
        exact Nat.le_add_right _ _
    | moveConstruct source =>
        rw [semantics.moveConstruct (List.getElem?_eq_getElem valid)]
        simp
    | moveAssign target source =>
        by_cases self : target = source
        · simp [self, semantics.selfAssign]
        · rw [semantics.moveAssign valid.1
            (List.getElem?_eq_getElem valid.2) self]
          simp
    | clear target =>
        simp [semantics.clear valid]
  · simp [semantics.invalid valid]

/-- What is followed is in the list again. -/
theorem follow_lt
    (semantics : MoveSemantics machine create vacant)
    (inside : index < objects.length)
    (followed : call.follow objects.length index = some place) :
    place < (machine.step objects call).1.length := by
  have grows := semantics.length_le_step objects call
  unfold ObjectCall.follow at followed
  split at followed
  · next valid =>
      cases call with
      | construct source =>
          simp only [Option.some.injEq] at followed
          omega
      | moveConstruct source =>
          rw [semantics.moveConstruct (List.getElem?_eq_getElem valid),
            List.length_append, List.length_set]
          simp only [Option.some.injEq] at followed
          split at followed <;> simp <;> omega
      | moveAssign target source =>
          have targetValid : target < objects.length := valid.1
          simp only at followed
          split_ifs at followed <;>
            simp only [Option.some.injEq] at followed <;>
            omega
      | clear target =>
          simp only at followed
          split_ifs at followed
          simp only [Option.some.injEq] at followed
          omega
  · rw [Option.some.injEq] at followed
    omega

/-- Overwriting an object before a run. -/
theorem stateFrom_set
    (semantics : MoveSemantics machine create vacant)
    (inside : index < objects.length)
    (other : Object)
    (calls : List (ObjectCall Source)) :
    machine.stateFrom (objects.set index other) calls =
      overwriteAt (whereabouts machine objects index calls) other
        (machine.stateFrom objects calls) := by
  induction calls generalizing objects index with
  | nil =>
      rfl
  | cons call rest inductionHypothesis =>
      rw [Machine.stateFrom, semantics.step_set inside, whereabouts]
      cases followed : call.follow objects.length index with
      | none =>
          rfl
      | some next =>
          exact inductionHypothesis
            (semantics.follow_lt inside followed)

/-- What is followed through a run is in the list at its end. -/
theorem whereabouts_lt
    (semantics : MoveSemantics machine create vacant)
    {calls : List (ObjectCall Source)}
    (inside : index < objects.length)
    (followed : whereabouts machine objects index calls = some place) :
    place < (machine.stateFrom objects calls).length := by
  induction calls generalizing objects index with
  | nil =>
      rw [whereabouts, Option.some.injEq] at followed
      rwa [← followed]
  | cons call rest inductionHypothesis =>
      rw [whereabouts, Option.bind_eq_some_iff] at followed
      obtain ⟨next, followedNow, followedLater⟩ := followed
      exact inductionHypothesis
        (semantics.follow_lt inside followedNow) followedLater

/-- An object that is overwritten is seen where it is followed to. -/
theorem getElem?_stateFrom_set_self
    (semantics : MoveSemantics machine create vacant)
    {calls : List (ObjectCall Source)}
    (inside : index < objects.length)
    (followed : whereabouts machine objects index calls = some place)
    (other : Object) :
    (machine.stateFrom (objects.set index other) calls)[place]? =
      some other := by
  rw [semantics.stateFrom_set inside, followed, overwriteAt]
  exact List.getElem?_set_self
    (semantics.whereabouts_lt inside followed)

/-- An object arrives as it left. -/
theorem getElem?_whereabouts
    (semantics : MoveSemantics machine create vacant)
    {calls : List (ObjectCall Source)}
    (inside : index < objects.length)
    (followed : whereabouts machine objects index calls = some place) :
    (machine.stateFrom objects calls)[place]? = objects[index]? := by
  have arrived :=
    semantics.getElem?_stateFrom_set_self inside followed objects[index]
  rwa [List.set_getElem_self,
    ← List.getElem?_eq_getElem inside] at arrived

/-- An object that is overwritten is seen nowhere else. -/
theorem getElem?_stateFrom_set
    (semantics : MoveSemantics machine create vacant)
    {calls : List (ObjectCall Source)}
    (inside : index < objects.length)
    (elsewhere : whereabouts machine objects index calls ≠ some place) :
    (machine.stateFrom (objects.set index other) calls)[place]? =
      (machine.stateFrom objects calls)[place]? := by
  rw [semantics.stateFrom_set inside]
  cases followed : whereabouts machine objects index calls with
  | none =>
      rfl
  | some final =>
      refine List.getElem?_set_ne ?_
      rintro rfl
      exact elsewhere followed

/-- An object that is cleared or moved into another one is left vacant. -/
theorem vacant_of_empties
    (semantics : MoveSemantics machine create vacant)
    (valid : call.Valid objects.length)
    (empties : call.Empties index) :
    (machine.step objects call).1[index]? = some vacant := by
  cases call with
  | construct source =>
      cases empties
  | moveConstruct source =>
      obtain rfl : source = index := empties
      have inside : source < (objects.set source vacant).length := by
        rwa [List.length_set]
      rw [semantics.moveConstruct (List.getElem?_eq_getElem valid),
        List.getElem?_append_left inside, List.getElem?_set_self valid]
  | moveAssign target source =>
      obtain ⟨rfl, differs⟩ := empties
      rw [semantics.moveAssign valid.1
        (List.getElem?_eq_getElem valid.2) differs]
      exact List.getElem?_set_self (by
        rw [List.length_set]
        exact valid.2)
  | clear target =>
      obtain rfl : target = index := empties
      rw [semantics.clear valid, List.getElem?_set_self valid]

/-- A vacant object stays vacant until another one is moved into it. -/
theorem vacant_step
    (semantics : MoveSemantics machine create vacant)
    (empty : objects[index]? = some vacant)
    (unfilled : ¬ call.Fills index) :
    (machine.step objects call).1[index]? = some vacant := by
  have inside := (List.getElem?_eq_some_iff.mp empty).1
  by_cases valid : call.Valid objects.length
  · by_cases empties : call.Empties index
    · exact semantics.vacant_of_empties valid empties
    cases call with
    | construct source =>
        rw [semantics.construct, List.getElem?_append_left inside, empty]
    | moveConstruct source =>
        have remains :
            index < (objects.set source vacant).length := by
          rwa [List.length_set]
        rw [semantics.moveConstruct (List.getElem?_eq_getElem valid),
          List.getElem?_append_left remains,
          List.getElem?_set_ne empties, empty]
    | moveAssign target source =>
        by_cases self : target = source
        · rw [self, semantics.selfAssign, empty]
        · have targetDiffers : target ≠ index := fun same =>
            unfilled ⟨same, fun fromHere =>
              self (same.trans fromHere.symm)⟩
          have sourceDiffers : source ≠ index := fun same =>
            empties ⟨same, targetDiffers⟩
          rw [semantics.moveAssign valid.1
              (List.getElem?_eq_getElem valid.2) self,
            List.getElem?_set_ne sourceDiffers,
            List.getElem?_set_ne targetDiffers, empty]
    | clear target =>
        rw [semantics.clear valid, List.getElem?_set_ne empties, empty]
  · rw [semantics.invalid valid, empty]

theorem vacant_stateFrom
    (semantics : MoveSemantics machine create vacant)
    {calls : List (ObjectCall Source)}
    (empty : objects[index]? = some vacant)
    (unfilled : ∀ call ∈ calls, ¬ call.Fills index) :
    (machine.stateFrom objects calls)[index]? = some vacant := by
  induction calls generalizing objects with
  | nil =>
      exact empty
  | cons call rest inductionHypothesis =>
      exact inductionHypothesis
        (semantics.vacant_step empty (unfilled call List.mem_cons_self))
        fun later member =>
          unfilled later (List.mem_cons_of_mem _ member)

section Related

variable {OtherObject OtherOutput : Type}
variable
  {otherMachine :
    Machine (List OtherObject) (ObjectCall Source) OtherOutput}
variable {otherCreate : Source → Option OtherObject}
variable {otherVacant : OtherObject}
variable {otherObjects : List OtherObject}
variable {Related : Object → OtherObject → Prop}

/-- Two machines with move semantics keep related objects related. -/
theorem forall₂_step
    (semantics : MoveSemantics machine create vacant)
    (otherSemantics :
      MoveSemantics otherMachine otherCreate otherVacant)
    (created :
      ∀ source,
        Option.Rel Related (create source) (otherCreate source))
    (left : Related vacant otherVacant)
    (related : List.Forall₂ Related objects otherObjects)
    (call : ObjectCall Source) :
    List.Forall₂ Related
      (machine.step objects call).1
      (otherMachine.step otherObjects call).1 := by
  have sameLength := related.length_eq
  by_cases valid : call.Valid objects.length
  · have otherValid : call.Valid otherObjects.length := sameLength ▸ valid
    cases call with
    | construct source =>
        rw [semantics.construct, otherSemantics.construct]
        exact List.rel_append related (forall₂_toList (created source))
    | moveConstruct source =>
        obtain ⟨object, other, found, otherFound, here⟩ :=
          exists_related_at related valid
        rw [semantics.moveConstruct found,
          otherSemantics.moveConstruct otherFound]
        exact List.rel_append (forall₂_set related left source)
          (.cons here .nil)
    | moveAssign target source =>
        by_cases self : target = source
        · rw [self, semantics.selfAssign, otherSemantics.selfAssign]
          exact related
        · obtain ⟨object, other, found, otherFound, here⟩ :=
            exists_related_at related valid.2
          rw [semantics.moveAssign valid.1 found self,
            otherSemantics.moveAssign otherValid.1 otherFound self]
          exact forall₂_set (forall₂_set related here target) left source
    | clear target =>
        rw [semantics.clear valid, otherSemantics.clear otherValid]
        exact forall₂_set related left target
  · rw [semantics.invalid valid,
      otherSemantics.invalid (sameLength ▸ valid)]
    exact related

theorem forall₂_stateFrom
    (semantics : MoveSemantics machine create vacant)
    (otherSemantics :
      MoveSemantics otherMachine otherCreate otherVacant)
    (created :
      ∀ source,
        Option.Rel Related (create source) (otherCreate source))
    (left : Related vacant otherVacant)
    (related : List.Forall₂ Related objects otherObjects)
    (calls : List (ObjectCall Source)) :
    List.Forall₂ Related
      (machine.stateFrom objects calls)
      (otherMachine.stateFrom otherObjects calls) := by
  induction calls generalizing objects otherObjects with
  | nil =>
      exact related
  | cons call rest inductionHypothesis =>
      exact inductionHypothesis
        (semantics.forall₂_step otherSemantics created left related call)

end Related

end MoveSemantics

/-- Values that are moved: the machine of move semantics alone. -/
def valueMachine
    (create : Source → Option Object)
    (vacant : Object) :
    Machine (List Object) (ObjectCall Source) Unit where
  initial := []
  step := fun objects call =>
    match call with
    | .construct source => (objects ++ (create source).toList, ())
    | .moveConstruct source =>
        match objects[source]? with
        | none => (objects, ())
        | some object => (objects.set source vacant ++ [object], ())
    | .moveAssign target source =>
        match objects[source]? with
        | none => (objects, ())
        | some object =>
            if target < objects.length ∧ target ≠ source then
              ((objects.set target object).set source vacant, ())
            else
              (objects, ())
    | .clear target => (objects.set target vacant, ())

theorem moveSemantics_valueMachine
    (create : Source → Option Object)
    (vacant : Object) :
    MoveSemantics (valueMachine create vacant) create vacant where
  construct _ _ := rfl
  moveConstruct := by
    intro objects source object found
    simp only [valueMachine, found]
  moveAssign := by
    intro objects target source object inside found differs
    simp only [valueMachine, found, inside, ne_eq, differs,
      not_false_eq_true, and_self, ↓reduceIte]
  selfAssign := by
    intro objects target
    simp only [valueMachine, ne_eq, not_true_eq_false, and_false,
      ↓reduceIte]
    split <;> rfl
  clear _ := rfl
  invalid := by
    intro objects call invalid
    cases call with
    | construct source =>
        exact absurd trivial invalid
    | moveConstruct source =>
        have missing : objects[source]? = none :=
          List.getElem?_eq_none (Nat.le_of_not_lt invalid)
        simp only [valueMachine, missing]
    | moveAssign target source =>
        simp only [valueMachine]
        split
        · rfl
        · next found =>
            have present := (List.getElem?_eq_some_iff.mp found).1
            rw [if_neg]
            rintro ⟨inside, -⟩
            exact invalid ⟨inside, present⟩
    | clear target =>
        exact List.set_eq_of_length_le (Nat.le_of_not_lt invalid)

end TgGate.Library
