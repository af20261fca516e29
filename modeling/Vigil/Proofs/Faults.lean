import Mathlib.Data.List.Forall2
import Vigil.Fault

/-!
# Classes of faults

A calculation either has a result or stops with a fault. `FailsWith p x` bounds the faults with
which `x` may stop, and the bound carries over to sequences, branches and lists of calculations
(`FailsWith.bind`, `FailsWith.ite`, `FailsWith.mapM`).

Of two calculations the second one may go on where the first one fails in some way, and be the same
otherwise (`AgreeUnless`).

The faults of data (`Fault.isData`) are those that a piece of data of the wrong kind, form or size
gives rise to. None of them is reported as a finding (`Fault.isFinding_of_isData`).
-/

namespace Vigil

/-- Whether a fault is one of data: of the wrong kind, without the attribute or key that is asked
for, refused, or with a result out of range. -/
def Fault.isData : Fault → Bool
  | .kind _ | .attribute .. | .missingKey _ | .value _ | .range _ => true
  | _ => false

/-- A fault of data is not a fault of what is checked. -/
theorem Fault.isFinding_of_isData {fault : Fault} (h : fault.isData) : fault.isFinding = false := by
  cases fault <;> simp_all [isData, isFinding]

/-- Whether a fault is one that a check may stop with: what it looks at is missing, is another thing
than expected, or cannot be read. -/
def Fault.isOfCheck : Fault → Bool
  | .noData | .wrongTarget _ | .snapshot _ | .credential _ => true
  | _ => false

/-- A fault of data is not one that a check may stop with. -/
theorem Fault.isOfCheck_of_isData {fault : Fault} (h : fault.isData) : fault.isOfCheck = false := by
  cases fault <;> simp_all [isData, isOfCheck]

/-- A sequence of calculations stops with the fault of the first part that stops. -/
theorem bind_eq_error_iff {ε α β : Type} {x : Except ε α} {f : α → Except ε β} {fault : ε} :
    (x >>= f) = .error fault ↔ x = .error fault ∨ ∃ a, x = .ok a ∧ f a = .error fault := by
  cases x with
  | error other => simp [bind, Except.bind]
  | ok a => simp [bind, Except.bind]

/-- A sequence of calculations has a result if all of its parts have one. -/
theorem bind_eq_ok_iff {ε α β : Type} {x : Except ε α} {f : α → Except ε β} {b : β} :
    (x >>= f) = .ok b ↔ ∃ a, x = .ok a ∧ f a = .ok b := by
  cases x with
  | error other => simp [bind, Except.bind]
  | ok a => simp [bind, Except.bind]

/-- What is made of a result is there if the result is. -/
theorem map_eq_ok_iff {ε α β : Type} {x : Except ε α} {f : α → β} {b : β} :
    f <$> x = .ok b ↔ ∃ a, x = .ok a ∧ f a = b := by
  cases x <;> simp [Functor.map, Except.map]

/-- The results of a list of calculations are those of its members, in their order. -/
theorem mapM_eq_ok_iff {α β : Type} {f : α → Except Fault β} {xs : List α} {ys : List β} :
    xs.mapM f = .ok ys ↔ List.Forall₂ (fun x y => f x = .ok y) xs ys := by
  induction xs generalizing ys with
  | nil =>
    rw [List.mapM_nil, List.forall₂_nil_left_iff]
    exact ⟨fun h => (Except.ok.inj h).symm, fun h => h ▸ rfl⟩
  | cons x xs ih =>
    rw [List.mapM_cons, bind_eq_ok_iff]
    constructor
    · rintro ⟨y, hy, h⟩
      obtain ⟨zs, hzs, h⟩ := bind_eq_ok_iff.mp h
      obtain rfl := Except.ok.inj h
      exact .cons hy (ih.mp hzs)
    · intro h
      cases h with
      | cons hy hrest => exact ⟨_, hy, bind_eq_ok_iff.mpr ⟨_, ih.mpr hrest, rfl⟩⟩

/-- Each result of a list of calculations is that of one of them. -/
theorem exists_of_mem_mapM {α β : Type} {f : α → Except Fault β} {xs : List α} {ys : List β}
    (h : xs.mapM f = .ok ys) {y : β} (hy : y ∈ ys) : ∃ x ∈ xs, f x = .ok y := by
  rw [mapM_eq_ok_iff] at h
  induction h with
  | nil => cases hy
  | @cons x z xs zs hz _ ih =>
    rcases List.mem_cons.mp hy with rfl | hy
    · exact ⟨x, List.mem_cons_self, hz⟩
    · obtain ⟨w, hw, hfw⟩ := ih hy
      exact ⟨w, List.mem_cons_of_mem x hw, hfw⟩

/-- If the calculation stops, then with a fault of this class. -/
def FailsWith {α : Type} (p : Fault → Prop) (x : Except Fault α) : Prop :=
  ∀ fault, x = .error fault → p fault

namespace FailsWith

variable {α β : Type} {p q : Fault → Prop}

/-- A result is no fault. -/
@[simp]
theorem ok (a : α) : FailsWith p (.ok a : Except Fault α) := by
  intro fault h
  cases h

/-- A returned result is no fault. -/
@[simp]
theorem pure (a : α) : FailsWith p (Pure.pure a : Except Fault α) := ok a

/-- A calculation that stops is bounded by its own fault. -/
@[simp]
theorem error_iff {fault : Fault} : FailsWith p (.error fault : Except Fault α) ↔ p fault := by
  constructor
  · intro h
    exact h fault rfl
  · rintro h _ ⟨⟩
    exact h

/-- A wider class bounds as well. -/
theorem mono {x : Except Fault α} (hx : FailsWith p x) (hpq : ∀ fault, p fault → q fault) :
    FailsWith q x := fun fault h => hpq fault (hx fault h)

/-- A calculation does not stop with a fault outside of its class. -/
theorem ne_error {x : Except Fault α} {fault : Fault} (hx : FailsWith p x) (h : ¬p fault) :
    x ≠ .error fault := fun hfault => h (hx fault hfault)

/-- What stops with faults of data only does not stop with a finding. -/
theorem ne_finding {x : Except Fault α} {fault : Fault} (hx : FailsWith (·.isData) x)
    (hfinding : fault.isFinding) : x ≠ .error fault :=
  hx.ne_error fun hdata => by simp [Fault.isFinding_of_isData hdata] at hfinding

/-- A sequence stops where its first or its second part stops. -/
theorem bind {x : Except Fault α} {f : α → Except Fault β} (hx : FailsWith p x)
    (hf : ∀ a, FailsWith p (f a)) : FailsWith p (x >>= f) := by
  cases x with
  | ok a => exact hf a
  | error fault => exact error_iff.mpr (hx fault rfl)

/-- What is made of a result adds no faults. -/
theorem map {x : Except Fault α} (hx : FailsWith p x) (f : α → β) : FailsWith p (f <$> x) := by
  cases x with
  | ok a => exact ok (f a)
  | error fault => exact error_iff.mpr (hx fault rfl)

/-- A branch stops where the part that is taken stops. -/
theorem ite {c : Prop} [Decidable c] {x y : Except Fault α} (hx : c → FailsWith p x)
    (hy : ¬c → FailsWith p y) : FailsWith p (if c then x else y) := by
  split
  · exact hx ‹_›
  · exact hy ‹_›

/-- A list of calculations stops where one of them stops. -/
theorem mapM_of_mem {f : α → Except Fault β} {xs : List α} (hf : ∀ a ∈ xs, FailsWith p (f a)) :
    FailsWith p (xs.mapM f) := by
  induction xs with
  | nil => simp
  | cons x xs ih =>
    rw [List.forall_mem_cons] at hf
    rw [List.mapM_cons]
    exact hf.1.bind fun _ => (ih hf.2).bind fun _ => pure _

/-- A list of calculations fails in the ways in which all of them fail. -/
theorem mapM {f : α → Except Fault β} (hf : ∀ a, FailsWith p (f a)) (xs : List α) :
    FailsWith p (xs.mapM f) := mapM_of_mem fun a _ => hf a

/-- A fold of calculations stops where one of its steps stops. -/
theorem foldlM {f : β → α → Except Fault β} (hf : ∀ b a, FailsWith p (f b a)) (xs : List α)
    (b : β) : FailsWith p (xs.foldlM f b) := by
  induction xs generalizing b with
  | nil => simp
  | cons x xs ih =>
    rw [List.foldlM_cons]
    exact (hf b x).bind fun b' => ih b'

end FailsWith

/-! ## Whether a calculation stops -/

/-- The calculation has no result. -/
def Stops {α : Type} (x : Except Fault α) : Prop := ∃ fault, x = .error fault

section Stops

variable {α β : Type}

/-- A result is no stop. -/
@[simp]
theorem not_stops_ok (a : α) : ¬Stops (.ok a : Except Fault α) := by
  rintro ⟨fault, ⟨⟩⟩

/-- Returning a value is no stop. -/
@[simp]
theorem not_stops_pure (a : α) : ¬Stops (pure a : Except Fault α) := not_stops_ok a

/-- A fault is a stop. -/
@[simp]
theorem stops_error (fault : Fault) : Stops (.error fault : Except Fault α) := ⟨fault, rfl⟩

/-- A calculation that does not stop has a result. -/
theorem not_stops_iff {x : Except Fault α} : ¬Stops x ↔ ∃ a, x = .ok a := by
  cases x <;> simp

/-- A sequence stops in its first part, or in its second one on the result of the first. -/
theorem stops_bind {x : Except Fault α} {f : α → Except Fault β} :
    Stops (x >>= f) ↔ Stops x ∨ ∃ a, x = .ok a ∧ Stops (f a) := by
  cases x with
  | ok a => simp [bind, Except.bind]
  | error fault => simp [bind, Except.bind]

/-- If it does not depend on the result of the first part whether the second one stops, then a
sequence stops where one of its parts does. -/
theorem stops_bind_of_iff {x : Except Fault α} {f : α → Except Fault β} {p : Prop}
    (hf : ∀ a, Stops (f a) ↔ p) : Stops (x >>= f) ↔ Stops x ∨ p := by
  rw [stops_bind]
  cases x with
  | ok a => simp [hf a]
  | error fault => simp

/-- Returning something after a calculation does not stop. -/
theorem stops_bind_pure {x : Except Fault α} {f : α → β} :
    Stops (x >>= fun a => pure (f a)) ↔ Stops x := by
  rw [stops_bind]
  simp

/-- What is made of a result does not stop. -/
@[simp]
theorem stops_map {x : Except Fault α} {f : α → β} : Stops (f <$> x) ↔ Stops x := by
  cases x <;> simp [Functor.map, Except.map]

/-- If it depends on the item alone whether a step stops, then a fold stops where the step of some
item does. -/
theorem stops_foldlM {f : β → α → Except Fault β} {p : α → Prop} (hf : ∀ b a, Stops (f b a) ↔ p a)
    (xs : List α) (b : β) : Stops (xs.foldlM f b) ↔ ∃ a ∈ xs, p a := by
  induction xs generalizing b with
  | nil => simp
  | cons x xs ih =>
    rw [List.foldlM_cons, stops_bind_of_iff fun b' => ih b', hf]
    simp

/-- A list of calculations stops where one of them does. -/
theorem stops_mapM (f : α → Except Fault β) (xs : List α) :
    Stops (xs.mapM f) ↔ ∃ a ∈ xs, Stops (f a) := by
  induction xs with
  | nil => simp
  | cons x xs ih =>
    rw [List.mapM_cons, stops_bind_of_iff fun b => stops_bind_pure, ih]
    simp

/-- A branch stops where the part that is taken stops. -/
theorem stops_ite {c : Prop} [Decidable c] {x y : Except Fault α} :
    Stops (if c then x else y) ↔ (c ∧ Stops x) ∨ (¬c ∧ Stops y) := by
  by_cases h : c <;> simp [h]

end Stops

/-! ## Faults outside of a class -/

/-- The calculation stops with a fault that is not of the class. -/
def Escapes {α : Type} (ofClass : Fault → Bool) (x : Except Fault α) : Prop :=
  ∃ fault, x = .error fault ∧ ofClass fault = false

section Escapes

variable {α β : Type} {ofClass : Fault → Bool}

/-- A result does not escape. -/
@[simp]
theorem not_escapes_ok (a : α) : ¬Escapes ofClass (.ok a : Except Fault α) := by
  rintro ⟨fault, ⟨⟩, -⟩

/-- Returning a value does not escape. -/
@[simp]
theorem not_escapes_pure (a : α) : ¬Escapes ofClass (pure a : Except Fault α) := not_escapes_ok a

/-- A fault escapes exactly if it is of another class. -/
@[simp]
theorem escapes_error_iff {fault : Fault} :
    Escapes ofClass (.error fault : Except Fault α) ↔ ofClass fault = false := by
  constructor
  · rintro ⟨_, ⟨⟩, h⟩
    exact h
  · intro h
    exact ⟨fault, rfl, h⟩

/-- A fault escapes from a sequence where it escapes from its first or its second part. -/
theorem escapes_bind {x : Except Fault α} {f : α → Except Fault β} :
    Escapes ofClass (x >>= f) ↔ Escapes ofClass x ∨ ∃ a, x = .ok a ∧ Escapes ofClass (f a) := by
  cases x with
  | ok a => simp [bind, Except.bind]
  | error fault => simp [bind, Except.bind]

/-- From a calculation whose faults are all of the class none escapes. -/
theorem FailsWith.not_escapes {x : Except Fault α} (h : FailsWith (ofClass ·) x) :
    ¬Escapes ofClass x := by
  rintro ⟨fault, hfault, hout⟩
  simp [h fault hfault] at hout

/-- If none of the faults is of the class, stopping is escaping. -/
theorem FailsWith.escapes_iff {x : Except Fault α} (h : FailsWith (ofClass · = false) x) :
    Escapes ofClass x ↔ Stops x := by
  constructor
  · rintro ⟨fault, hfault, -⟩
    exact ⟨fault, hfault⟩
  · rintro ⟨fault, hfault⟩
    exact ⟨fault, hfault, h fault hfault⟩

/-- From which no fault escapes, it has a result or stops with a fault of the class. -/
theorem not_escapes_iff {x : Except Fault α} :
    ¬Escapes ofClass x ↔ (∃ a, x = .ok a) ∨ ∃ fault, x = .error fault ∧ ofClass fault := by
  cases x <;> simp

end Escapes

/-! ## Calculations that agree -/

/-- Two calculations have the same outcome, unless the first one fails in one of these ways. -/
def AgreeUnless {ε α : Type} (p : ε → Prop) (x y : Except ε α) : Prop :=
  (∃ fault, x = .error fault ∧ p fault) ∨ y = x

namespace AgreeUnless

variable {ε α β : Type} {p : ε → Prop} {x y : Except ε α}

/-- A calculation agrees with itself. -/
theorem refl (x : Except ε α) : AgreeUnless p x x := .inr rfl

/-- Calculations in two parts agree if their parts do. -/
theorem bind {f g : α → Except ε β} (h : AgreeUnless p x y) (hfg : ∀ a, AgreeUnless p (f a) (g a)) :
    AgreeUnless p (x >>= f) (y >>= g) := by
  rcases h with ⟨fault, rfl, hfault⟩ | rfl
  · exact .inl ⟨fault, rfl, hfault⟩
  · cases y with
    | error fault => exact .inr rfl
    | ok a => exact hfg a

end AgreeUnless

end Vigil
