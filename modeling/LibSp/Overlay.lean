import Mathlib.Logic.Nontrivial.Defs
import LibSp.Flags

/-!
# Overlays

A write that reaches only some places of a valuation, as a partial valuation laid over it.
Of several overlays the latest wins at each place it reaches. What an overlay leaves of
those before it can be told from the places they reach.
-/

set_option autoImplicit false

namespace LibSp

variable {Index Value State Setting : Type}

abbrev Overlay (Index Value : Type) : Type := Index → Option Value

namespace Overlay

def on (overlay : Overlay Index Value) (base : Index → Value) : Index → Value :=
  fun index => (overlay index).getD (base index)

def nothing : Overlay Index Value := fun _ => none

def after (late early : Overlay Index Value) : Overlay Index Value :=
  fun index => (late index).or (early index)

/-- The overlays one after another, the first of the list at the bottom. -/
def stack (overlays : List (Overlay Index Value)) (base : Index → Value) : Index → Value :=
  overlays.foldl (fun base overlay => overlay.on base) base

variable {overlay late early last : Overlay Index Value}
  {overlays former : List (Overlay Index Value)} {base other : Index → Value} {index : Index}

@[simp] theorem nothing_on : (nothing : Overlay Index Value).on base = base := rfl

theorem after_on : (late.after early).on base = late.on (early.on base) := by
  funext index
  unfold on after
  cases late index <;> rfl

@[simp] theorem after_eq_none :
    late.after early index = none ↔ late index = none ∧ early index = none :=
  Option.or_eq_none_iff

theorem on_of_none (absent : overlay index = none) : overlay.on base index = base index := by
  unfold on
  rw [absent]
  rfl

/-- What lies below matters place by place. -/
theorem on_congr (same : base index = other index) :
    overlay.on base index = overlay.on other index := by
  unfold on
  rw [same]

theorem stack_congr (same : base index = other index) :
    stack overlays base index = stack overlays other index := by
  induction overlays generalizing base other with
  | nil => exact same
  | cons overlay overlays overlaysIH => exact overlaysIH (on_congr same)

theorem stack_of_none (absent : ∀ overlay ∈ overlays, overlay index = none) :
    stack overlays base index = base index := by
  induction overlays generalizing base with
  | nil => rfl
  | cons overlay overlays overlaysIH =>
      have bottom := absent overlay List.mem_cons_self
      have above := fun overlay member => absent overlay (List.mem_cons_of_mem _ member)
      exact (overlaysIH above).trans (on_of_none bottom)

/-- Where some overlay of the stack reaches, the base is forgotten. -/
theorem stack_of_reached (member : overlay ∈ overlays) (reached : overlay index ≠ none) :
    stack overlays base index = stack overlays other index := by
  induction overlays generalizing base other with
  | nil => exact absurd member List.not_mem_nil
  | cons first overlays overlaysIH =>
      rcases List.mem_cons.mp member with same | above
      · subst same
        have covered : overlay.on base index = overlay.on other index := by
          unfold on
          cases found : overlay index with
          | none => exact absurd found reached
          | some value => rfl
        exact @stack_congr _ _ overlays (overlay.on base) (overlay.on other) index covered
      · exact overlaysIH above

/-- An overlay that reaches all places that the earlier ones reach hides them. -/
theorem hides_of_covers {seen : Index → Prop}
    (covers : ∀ overlay ∈ former, ∀ index, seen index → last index = none → overlay index = none)
    (visible : seen index) : last.on (stack former base) index = last.on base index := by
  cases found : last index with
  | none =>
      have absent := fun overlay member => covers overlay member index visible found
      exact on_congr (stack_of_none absent)
  | some value =>
      unfold on
      rw [found]
      rfl

/-- And it hides them, whatever lies below them, only then. -/
theorem hides_iff [Nontrivial Value] {seen : Index → Prop} :
    (∀ base index, seen index → last.on (stack former base) index = last.on base index) ↔
      ∀ overlay ∈ former, ∀ index, seen index → last index = none → overlay index = none := by
  constructor
  · intro hides overlay member index visible absent
    apply Classical.byContradiction
    intro reached
    obtain ⟨first, second, different⟩ := exists_pair_ne Value
    have shows : ∀ value, stack former (fun _ => value) index = value := by
      intro value
      have same := hides (fun _ => value) index visible
      rw [on_of_none absent, on_of_none absent] at same
      exact same
    apply different
    calc first = stack former (fun _ => first) index := (shows first).symm
      _ = stack former (fun _ => second) index := stack_of_reached member reached
      _ = second := shows second
  · intro covers base index visible
    exact hides_of_covers covers visible

/-! ## Steps that lay overlays -/

section Steps

variable {step : Setting → State → State} {view : State → Index → Value}
  {lay : Setting → Overlay Index Value} {seen : Index → Prop}

theorem view_foldl
    (lays : ∀ setting state index, seen index →
      view (step setting state) index = (lay setting).on (view state) index)
    (settings : List Setting) (state : State) (visible : seen index) :
    view (settings.foldl (fun state setting => step setting state) state) index =
      stack (settings.map lay) (view state) index := by
  induction settings generalizing state with
  | nil => rfl
  | cons setting settings settingsIH =>
      exact (settingsIH (step setting state)).trans (stack_congr (lays setting state index visible))

theorem view_last
    (lays : ∀ setting state index, seen index →
      view (step setting state) index = (lay setting).on (view state) index)
    (settings : List Setting) (setting : Setting) (state : State) (visible : seen index) :
    view (step setting (settings.foldl (fun state setting => step setting state) state)) index =
      (lay setting).on (stack (settings.map lay) (view state)) index :=
  (lays setting _ index visible).trans (on_congr (view_foldl lays settings state visible))

/-- Steps that all lay the same overlay: only the last one counts. -/
theorem forgets_of_alike {same : Overlay Index Value}
    (lays : ∀ setting state index, seen index →
      view (step setting state) index = same.on (view state) index)
    (settings : List Setting) (setting : Setting) (state : State) (visible : seen index) :
    view (step setting (settings.foldl (fun state setting => step setting state) state)) index =
      view (step setting state) index := by
  rw [view_last lays settings setting state visible, lays setting state index visible]
  refine hides_of_covers ?_ visible
  intro overlay member place _ absent
  obtain ⟨_, _, rfl⟩ := List.mem_map.mp member
  exact absent

/-- A step makes the same of every state as if the earlier steps had not been, exactly when
they reach no place that it leaves alone. -/
theorem forgets_iff [Nontrivial Value] (onto : Function.Surjective view)
    (lays : ∀ setting state index, seen index →
      view (step setting state) index = (lay setting).on (view state) index)
    (settings : List Setting) (setting : Setting) :
    (∀ state index, seen index →
      view (step setting (settings.foldl (fun state setting => step setting state) state)) index =
        view (step setting state) index) ↔
      ∀ former ∈ settings, ∀ index, seen index → lay setting index = none →
        lay former index = none := by
  have hides := @hides_iff Index Value (lay setting) (settings.map lay) _ seen
  rw [List.forall_mem_map] at hides
  rw [← hides]
  constructor
  · intro forgets base index visible
    obtain ⟨state, rfl⟩ := onto base
    rw [← view_last lays settings setting state visible, ← lays setting state index visible]
    exact forgets state index visible
  · intro hidden state index visible
    rw [view_last lays settings setting state visible, lays setting state index visible]
    exact hidden (view state) index visible

end Steps

end Overlay

/-! ## Flag words -/

namespace Flags

variable {width : Nat} {word mask first second field : BitVec width} {index : Fin width}

def bits (word : BitVec width) : Fin width → Bool := fun index => word[index]

def raising (mask : BitVec width) : Overlay (Fin width) Bool :=
  fun index => if mask[index] then some true else none

def lowering (mask : BitVec width) : Overlay (Fin width) Bool :=
  fun index => if mask[index] then some false else none

theorem bits_surjective : Function.Surjective (bits : BitVec width → Fin width → Bool) := by
  intro valuation
  refine ⟨(BitVec.iunfoldr (fun index (_ : Unit) => ((), valuation index)) ()).snd, ?_⟩
  funext index
  rw [bits, Fin.getElem_fin, ← BitVec.getLsbD_eq_getElem]
  exact BitVec.iunfoldr_getLsbD (fun _ => ()) index fun _ => rfl

theorem bits_injective : Function.Injective (bits : BitVec width → Fin width → Bool) := by
  intro first second same
  ext index bound
  exact congrFun same ⟨index, bound⟩

theorem bits_setBits : bits (setBits word mask) = (raising mask).on (bits word) := by
  funext index
  simp only [bits, setBits, raising, Overlay.on, Fin.getElem_fin, BitVec.getElem_or]
  cases mask[index.val] <;> simp

theorem bits_clearBits : bits (clearBits word mask) = (lowering mask).on (bits word) := by
  funext index
  simp only [bits, clearBits, lowering, Overlay.on, Fin.getElem_fin, BitVec.getElem_and,
    BitVec.getElem_not]
  cases mask[index.val] <;> simp

@[simp] theorem raising_eq_none : raising mask index = none ↔ mask[index] = false := by
  simp [raising]

@[simp] theorem lowering_eq_none : lowering mask index = none ↔ mask[index] = false := by
  simp [lowering]

theorem and_eq_and_iff :
    first &&& field = second &&& field ↔
      ∀ index : Fin width, field[index] = true → bits first index = bits second index := by
  constructor
  · intro same index inside
    have bit := congrArg (fun word => bits word index) same
    simp only [bits, Fin.getElem_fin, BitVec.getElem_and] at bit inside
    simpa only [bits, Fin.getElem_fin, inside, Bool.and_true] using bit
  · intro same
    ext index bound
    have bit := same ⟨index, bound⟩
    simp only [bits, Fin.getElem_fin] at bit
    simp only [BitVec.getElem_and]
    cases inside : field[index] with
    | false => simp
    | true => rw [bit inside]

end Flags

end LibSp
