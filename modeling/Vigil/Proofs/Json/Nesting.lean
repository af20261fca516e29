import Vigil.Proofs.Faults
import Vigil.Proofs.Json.Remainder

/-!
# Nesting of documents

How deep lists and objects may be nested is up to the caller of the reader. What is read keeps to
the limit (`Json.within_of_read`), and only a text in which more lists and objects begin is refused
for it (`Json.lt_openings_of_read`). The limit does nothing else: under a higher one, a text is read
as before, unless it was refused for its nesting (`Json.read_of_le`).
-/

namespace Vigil.Json

/-- Whether a text is refused for its nesting. -/
def Refusal.isNesting : Refusal → Bool
  | .nesting _ => true
  | .invalid _ => false

/-! ## Higher limits -/

section Higher

variable {depth more : Nat}

/-- Values, items and members are read under a higher limit as they are under a lower one. -/
theorem readValue_agree (fuel : Nat) (h : depth ≤ more) :
    (∀ cs, AgreeUnless (·.isDeep) (readValue depth fuel cs) (readValue more fuel cs)) ∧
    (∀ cs, AgreeUnless (·.isDeep) (readItems depth fuel cs) (readItems more fuel cs)) ∧
    (∀ cs, AgreeUnless (·.isDeep) (readMembers depth fuel cs) (readMembers more fuel cs)) := by
  induction fuel generalizing depth more with
  | zero => exact ⟨fun cs => .inr rfl, fun cs => .inr rfl, fun cs => .inr rfl⟩
  | succ fuel ih =>
    refine ⟨fun cs => ?_, fun cs => ?_, fun cs => ?_⟩
    · unfold readValue
      split
      · exact .inl ⟨_, rfl, rfl⟩
      · obtain ⟨more, rfl⟩ : ∃ m, more = m + 1 := ⟨more - 1, by omega⟩
        obtain ⟨-, hitems, -⟩ := ih (Nat.le_of_succ_le_succ h)
        simp only
        split
        · exact .refl _
        · exact (hitems _).bind fun _ => .refl _
      · exact .inl ⟨_, rfl, rfl⟩
      · obtain ⟨more, rfl⟩ : ∃ m, more = m + 1 := ⟨more - 1, by omega⟩
        obtain ⟨-, -, hmembers⟩ := ih (Nat.le_of_succ_le_succ h)
        simp only
        split
        · exact .refl _
        · exact (hmembers _).bind fun _ => .refl _
      · next hlist hlistBelow hobject hobjectBelow =>
        -- The text begins neither a list nor an object, so the limit plays no part.
        split
        case h_5 => exact .refl _
        all_goals cases depth <;> simp_all
    · obtain ⟨hvalue, hitems, -⟩ := ih h
      unfold readItems
      refine (hvalue cs).bind ?_
      rintro ⟨item, rest⟩
      dsimp only
      split
      · exact .refl _
      · exact (hitems _).bind fun _ => .refl _
      · exact .refl _
    · obtain ⟨hvalue, -, hmembers⟩ := ih h
      unfold readMembers
      split
      · refine (AgreeUnless.refl _).bind ?_
        rintro ⟨name, rest⟩
        dsimp only
        split
        · refine (hvalue _).bind ?_
          rintro ⟨v, rest⟩
          dsimp only
          split
          · exact .refl _
          · exact (hmembers _).bind fun _ => .refl _
          · exact .refl _
        · exact .refl _
      · exact .refl _

/-- Documents are read under a higher limit as they are under a lower one. -/
theorem readChars?_agree (h : depth ≤ more) (cs : List Char) :
    AgreeUnless (·.isDeep) (readChars? depth cs) (readChars? more cs) :=
  ((readValue_agree _ h).1 _).bind fun _ => .refl _

/-- A text that is not refused for its nesting is read under every higher limit as well, and as the
same document. -/
theorem read_of_le (h : depth ≤ more) (cs : List Char) :
    AgreeUnless (·.isNesting) (read depth cs) (read more cs) := by
  unfold read
  rcases readChars?_agree h cs with ⟨fault, hread, hdeep⟩ | hread
  · rw [hread]
    refine .inl ⟨_, rfl, ?_⟩
    cases fault <;> first | rfl | cases hdeep
  · rw [hread]
    exact .refl _

/-- The same holds of bytes. -/
theorem readBytes_of_le (h : depth ≤ more) (bytes : List UInt8) :
    AgreeUnless (·.isNesting) (readBytes depth bytes) (readBytes more bytes) := by
  unfold readBytes
  split
  · exact read_of_le h _
  · exact .refl _

end Higher

/-! ## Documents that are read -/

/-- Whether a document is neither a list nor an object. -/
def isScalar : Json → Bool
  | .list _ => false
  | .object _ => false
  | .null | .bool _ | .int _ | .float _ | .str _ => true

/-- Lists and objects are nested in a document at most so deep. -/
inductive Within : Nat → Json → Prop
  /-- There are none. -/
  | scalar {depth : Nat} {j : Json} (h : j.isScalar) : Within depth j
  /-- A list is one level above its items. -/
  | list {depth : Nat} {items : List Json} (h : ∀ item ∈ items, Within depth item) :
      Within (depth + 1) (.list items)
  /-- An object is one level above its members. -/
  | object {depth : Nat} {members : List (String × Json)}
      (h : ∀ member ∈ members, Within depth member.2) : Within (depth + 1) (.object members)

/-- A member that is set is the new one or one that was there. -/
theorem mem_setMember {name : String} {v : Json} {members : List (String × Json)}
    {member : String × Json} (h : member ∈ setMember name v members) :
    member.2 = v ∨ member ∈ members := by
  induction members with
  | nil =>
    obtain rfl := List.mem_singleton.mp h
    exact .inl rfl
  | cons first rest ih =>
    unfold setMember at h
    split at h
    · rcases List.mem_cons.mp h with rfl | hrest
      · exact .inl rfl
      · exact .inr (List.mem_cons_of_mem _ hrest)
    · rcases List.mem_cons.mp h with rfl | hrest
      · exact .inr List.mem_cons_self
      · exact (ih hrest).imp_right (List.mem_cons_of_mem _)

/-- The members of an object have values that were written. -/
theorem mergeMembers_forall {p : Json → Prop} {written : List (String × Json)}
    (h : ∀ member ∈ written, p member.2) : ∀ member ∈ mergeMembers written, p member.2 := by
  suffices hfold : ∀ done : List (String × Json), (∀ member ∈ done, p member.2) →
      ∀ member ∈ written.foldl (fun done new => setMember new.1 new.2 done) done, p member.2 from
    hfold [] (by simp)
  induction written with
  | nil => exact fun done hdone => hdone
  | cons first rest ih =>
    intro done hdone
    refine ih (fun member hmem => h member (List.mem_cons_of_mem _ hmem)) _ fun member hmem => ?_
    rcases mem_setMember hmem with heq | hmem
    · rw [heq]
      exact h first List.mem_cons_self
    · exact hdone member hmem

/-- A word stands for no list and no object. -/
theorem isScalar_of_word? {cs rest : List Char} {j : Json} (h : word? cs = some (j, rest)) :
    j.isScalar := by
  unfold word? at h
  obtain ⟨⟨w, value⟩, hmem, hfound⟩ := List.exists_of_findSome?_eq_some h
  dsimp only at hfound
  split at hfound
  · cases hfound
    simp only [List.mem_cons, Prod.mk.injEq, List.not_mem_nil, or_false] at hmem
    rcases hmem with ⟨-, rfl⟩ | ⟨-, rfl⟩ | ⟨-, rfl⟩ | ⟨-, rfl⟩ | ⟨-, rfl⟩ | ⟨-, rfl⟩ <;> rfl
  · cases hfound

/-- A number is no list and no object. -/
theorem isScalar_of_readNumber {start cs rest : List Char} {negative : Bool} {j : Json}
    (h : readNumber start negative cs = .ok (j, rest)) : j.isScalar := by
  unfold readNumber at h
  dsimp only at h
  split at h
  · cases h
  · obtain ⟨number, hnumber, hj⟩ := map_eq_ok_iff.mp h
    cases hj
    unfold numberOf at hnumber
    split at hnumber
    · split at hnumber <;> cases hnumber
      rfl
    · cases hnumber
      rfl

/-- What is read of a text that begins no list and no object is neither. -/
theorem isScalar_of_readScalar {cs rest : List Char} {j : Json}
    (h : readScalar cs = .ok (j, rest)) : j.isScalar := by
  unfold readScalar at h
  split at h
  · rename_i hword
    cases h
    exact isScalar_of_word? hword
  · split at h
    · obtain ⟨text, -, hj⟩ := map_eq_ok_iff.mp h
      cases hj
      rfl
    · exact isScalar_of_readNumber h
    · exact isScalar_of_readNumber h

/-- What is read is nested no deeper than it may be. -/
theorem readValue_within (fuel : Nat) :
    (∀ depth cs j rest, readValue depth fuel cs = .ok (j, rest) → Within depth j) ∧
    (∀ depth cs items rest, readItems depth fuel cs = .ok (items, rest) →
      ∀ item ∈ items, Within depth item) ∧
    (∀ depth cs members rest, readMembers depth fuel cs = .ok (members, rest) →
      ∀ member ∈ members, Within depth member.2) := by
  induction fuel with
  | zero =>
    refine ⟨?_, ?_, ?_⟩ <;> rintro _ _ _ _ ⟨⟩
  | succ fuel ih =>
    obtain ⟨hvalue, hitems, hmembers⟩ := ih
    refine ⟨fun depth cs j rest h => ?_, fun depth cs items rest h => ?_,
      fun depth cs members rest h => ?_⟩
    -- What stands inside of a list or an object may be nested one level less.
    · unfold readValue at h
      split at h
      · cases h
      · split at h
        · cases h
          exact .list (List.forall_mem_nil _)
        · obtain ⟨⟨items, after⟩, hread, h⟩ := bind_eq_ok_iff.mp h
          cases h
          exact .list (hitems _ _ _ _ hread)
      · cases h
      · split at h
        · cases h
          exact .object (List.forall_mem_nil _)
        · obtain ⟨⟨members, after⟩, hread, h⟩ := bind_eq_ok_iff.mp h
          cases h
          exact .object (mergeMembers_forall (hmembers _ _ _ _ hread))
      · exact .scalar (isScalar_of_readScalar h)
    -- Items stand beside each other, as members do, so the limit stays.
    · unfold readItems at h
      obtain ⟨⟨item, after⟩, hitem, h⟩ := bind_eq_ok_iff.mp h
      have hfirst := hvalue _ _ _ _ hitem
      dsimp only at h
      split at h
      · cases h
        exact List.forall_mem_singleton.mpr hfirst
      · obtain ⟨⟨more, after⟩, hmore, h⟩ := bind_eq_ok_iff.mp h
        cases h
        exact List.forall_mem_cons.mpr ⟨hfirst, hitems _ _ _ _ hmore⟩
      · cases h
    · unfold readMembers at h
      split at h
      · obtain ⟨⟨name, after⟩, -, h⟩ := bind_eq_ok_iff.mp h
        dsimp only at h
        split at h
        · obtain ⟨⟨v, after⟩, hv, h⟩ := bind_eq_ok_iff.mp h
          have hfirst := hvalue _ _ _ _ hv
          dsimp only at h
          split at h
          · cases h
            exact List.forall_mem_singleton.mpr hfirst
          · obtain ⟨⟨more, after⟩, hmore, h⟩ := bind_eq_ok_iff.mp h
            cases h
            exact List.forall_mem_cons.mpr ⟨hfirst, hmembers _ _ _ _ hmore⟩
          · cases h
        · cases h
      · cases h

/-- A document that is read is nested no deeper than it may be. -/
theorem within_of_read {depth : Nat} {cs : List Char} {j : Json} (h : read depth cs = .ok j) :
    Within depth j := by
  unfold read at h
  split at h
  · rename_i hread
    cases h
    obtain ⟨⟨v, rest⟩, hv, h⟩ := bind_eq_ok_iff.mp hread
    dsimp only at h
    split at h
    · cases h
      exact (readValue_within _).1 _ _ _ _ hv
    · cases h
  · cases h

/-- A text that is refused for its nesting begins more lists and objects than may be nested. -/
theorem lt_openings_of_read {depth : Nat} {cs : List Char} {refusal : Refusal}
    (h : read depth cs = .error refusal) (hnesting : refusal.isNesting) :
    depth < openings cs := by
  unfold read at h
  split at h
  · cases h
  · rename_i fault hread
    cases h
    have hdeep : fault.isDeep := by
      cases fault <;> first | rfl | cases hnesting
    rcases bind_eq_error_iff.mp hread with hvalue | ⟨⟨v, rest⟩, -, h⟩
    · have hlt := ((readValue_leaves _).1 depth _).nested _ hvalue hdeep
      exact Nat.lt_of_lt_of_le hlt (openings_le (skip_suffix cs))
    · dsimp only at h
      split at h
      · cases h
      · cases h
        cases hdeep

end Vigil.Json
