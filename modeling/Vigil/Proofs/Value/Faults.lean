import Vigil.Proofs.Faults
import Vigil.Threshold

/-!
# Faults of data operations

Reading, converting, comparing and writing a piece of data stop with faults of data only
(`toInt_failsWith`, `toDuration_failsWith`, `order_failsWith`, `text_failsWith`), and so does
judging a value against thresholds (`Threshold.evaluate_failsWith`). Writing has a single fault,
that of an integer of too many digits (`text_tooLong`). Instants are the one exception: a number of
seconds may also lie beyond the calendar of the system (`toInstant_failsWith`).
-/

namespace Vigil

namespace Duration

/-- A result out of range is a fault of data. -/
theorem liftRange_failsWith {α : Type} (x : Except RangeFault α) :
    FailsWith (·.isData) (liftRange x) := by
  cases x <;> simp [liftRange, Fault.isData]

/-- A number without an integer part is one. -/
theorem integerPart_failsWith (x : Double) : FailsWith (·.isData) (integerPart x) := by
  cases x <;> simp [integerPart, Fault.isData]

/-- Seconds that no duration can have are one. -/
theorem ofSeconds?_failsWith (x : Double) : FailsWith (·.isData) (ofSeconds? x) :=
  (integerPart_failsWith x).bind fun _ => liftRange_failsWith _

/-- So is a text that is no duration. -/
theorem parse_failsWith (s : String) : FailsWith (·.isData) (parse s) := by
  unfold parse
  dsimp only
  split
  · simp [Fault.isData]
  · exact ofSeconds?_failsWith _
  · split
    · exact ofSeconds?_failsWith _
    · simp [Fault.isData]

end Duration

namespace Value

/-! ## Members and items -/

/-- A kind of value without members by name is a fault of data. -/
theorem get?_failsWith (v : Value) (key : String) : FailsWith (·.isData) (v.get? key) := by
  cases v <;> simp [get?, Fault.isData]

/-- The same holds where a default stands for a missing member. -/
theorem getD_failsWith (v : Value) (key : String) (default : Value) :
    FailsWith (·.isData) (v.getD key default) :=
  (get?_failsWith v key).bind fun _ => .pure _

/-- A missing member is a fault of data, too. -/
theorem member_failsWith (v : Value) (key : String) : FailsWith (·.isData) (v.member key) := by
  unfold member
  split
  · split <;> simp [Fault.isData]
  all_goals simp [Fault.isData]

/-- So is a kind of value that is no collection. -/
theorem items_failsWith (v : Value) : FailsWith (·.isData) v.items := by
  cases v <;> simp [items, Fault.isData]

/-! ## Conversions -/

/-- An integer beyond the largest floating-point number is a fault of data. -/
theorem intToDouble_failsWith (n : Int) : FailsWith (·.isData) (intToDouble n) := by
  unfold intToDouble
  dsimp only
  split <;> simp [Fault.isData]

/-- A text that is no integer is one. -/
theorem intOf_failsWith (shown : String) (x : Except Literal.IntFault Int) :
    FailsWith (·.isData) (intOf shown x) := by
  rcases x with (_ | _) | _ <;> simp [intOf, Fault.isData]

/-- So is a text that is no number. -/
theorem doubleOf_failsWith (shown : String) (x : Option Double) :
    FailsWith (·.isData) (doubleOf shown x) := by
  cases x <;> simp [doubleOf, Fault.isData]

/-- A value from which no integer can be made is a fault of data. -/
theorem toInt_failsWith (v : Value) : FailsWith (·.isData) v.toInt := by
  cases v
  case float => exact Duration.integerPart_failsWith _
  case str => exact intOf_failsWith _ _
  case bytes => exact intOf_failsWith _ _
  all_goals simp [toInt, Fault.isData]

/-- So is one from which no floating-point number can be made. -/
theorem toDouble_failsWith (v : Value) : FailsWith (·.isData) v.toDouble := by
  cases v
  case bool => exact intToDouble_failsWith _
  case int => exact intToDouble_failsWith _
  case str => exact doubleOf_failsWith _ _
  case bytes => exact doubleOf_failsWith _ _
  all_goals simp [toDouble, Fault.isData]

/-- So is one from which no duration can be made. -/
theorem toDuration_failsWith (v : Value) : FailsWith (·.isData) v.toDuration := by
  cases v
  case bool => exact Duration.liftRange_failsWith _
  case int => exact Duration.liftRange_failsWith _
  case float => exact Duration.ofSeconds?_failsWith _
  case str => exact Duration.parse_failsWith _
  case bytes =>
    simp only [toDuration]
    split
    · simp [Fault.isData]
    · exact Duration.ofSeconds?_failsWith _
    · simp [Fault.isData]
  all_goals simp [toDuration, Fault.isData]

/-- A value that cannot be written with so many places is a fault of data. -/
theorem fixed_failsWith (places : Nat) (v : Value) : FailsWith (·.isData) (v.fixed places) := by
  cases v
  case bool => exact (intToDouble_failsWith _).bind fun _ => .pure _
  case int => exact (intToDouble_failsWith _).bind fun _ => .pure _
  all_goals simp [fixed, Fault.isData]

/-! ## Text -/

/-- Only an integer of too many digits has no text. -/
theorem intText_tooLong (n : Int) : FailsWith (· = .value .tooLongToWrite) (intText n) := by
  unfold intText
  split <;> simp

/-- Only integers of too many digits keep data from being shown. The induction runs through the
values, their items and their entries at once. -/
theorem shown_tooLong (v : Value) : FailsWith (· = .value .tooLongToWrite) v.shown := by
  induction v using shown.induct
    (motive_2 := fun entries => FailsWith (· = .value .tooLongToWrite) (shownEntries entries))
    (motive_3 := fun items => FailsWith (· = .value .tooLongToWrite) (shownItems items)) with
  -- Only integers can be too long; all the other cases pass on what is inside.
  | case3 n => exact intText_tooLong n
  | case10 items ih => exact ih.bind fun _ => .pure _
  | case11 item ih => exact ih.bind fun _ => .pure _
  | case12 items single ih =>
    rw [shown]
    · exact ih.bind fun _ => .pure _
    · exact single
  | case13 entries ih => exact ih.bind fun _ => .pure _
  | case14 items empty => simp [shown, empty]
  | case15 items filled ih =>
    simp only [shown, filled]
    exact ih.bind fun _ => .pure _
  | case17 v rest ih ihRest => exact ih.bind fun _ => ihRest.bind fun _ => .pure _
  | case19 k v rest ihKey ih ihRest =>
    exact ihKey.bind fun _ => ih.bind fun _ => ihRest.bind fun _ => .pure _
  | _ => simp [shown, shownItems, shownEntries]

/-- A value has no text only if it holds such an integer. -/
theorem text_tooLong (v : Value) : FailsWith (· = .value .tooLongToWrite) v.text := by
  unfold text
  split
  · simp
  · simp
  · simp
  · simp
  · exact shown_tooLong v

/-- An integer without a text is a fault of data. -/
theorem intText_failsWith (n : Int) : FailsWith (·.isData) (intText n) :=
  (intText_tooLong n).mono fun _ h => h ▸ rfl

/-- So is any value without one. -/
theorem text_failsWith (v : Value) : FailsWith (·.isData) v.text :=
  (text_tooLong v).mono fun _ h => h ▸ rfl

/-! ## Order -/

/-- Two kinds that stand in no order are a fault of data. -/
theorem unordered_isData (operator : String) (a b : Value) : (unordered operator a b).isData := by
  unfold unordered
  split <;> rfl

/-- Two values that cannot be compared are a fault of data. -/
theorem order_failsWith (operator : String) (a b : Value) :
    FailsWith (·.isData) (order operator a b) := by
  induction a, b using order.induct
    (motive_2 := fun as bs => FailsWith (·.isData) (orderItems operator as bs)) with
  | case4 s t same => simp [order, same]
  | case5 s t mixed => simp [order, mixed, unordered_isData]
  | case7 as bs ih => simpa only [order] using ih
  | case8 as bs ih => simpa only [order] using ih
  -- Numbers of different kinds are compared by what they count; what is no number has no order.
  | case9 a b h₁ h₂ h₃ h₄ h₅ h₆ h₇ m n hm hn =>
    rw [order] <;> first | assumption | simp [hm, hn]
  | case10 a b h₁ h₂ h₃ h₄ h₅ h₆ h₇ other =>
    rw [order]
    · split
      · simp
      · simp [unordered_isData]
    all_goals assumption
  | case14 a as b bs same ih => simpa only [orderItems, same, if_true] using ih
  | case15 a as b bs other ih => simpa [orderItems, other] using ih
  | _ => simp [order, orderItems]

/-- Whether a value is less than another one is told, or there is a fault of data. -/
theorem lt_failsWith (a b : Value) : FailsWith (·.isData) (a.lt b) :=
  (order_failsWith _ a b).bind fun _ => .pure _

/-- So is whether it is greater. -/
theorem gt_failsWith (a b : Value) : FailsWith (·.isData) (a.gt b) :=
  (order_failsWith _ a b).bind fun _ => .pure _

/-- So is whether it is at most the other one. -/
theorem le_failsWith (a b : Value) : FailsWith (·.isData) (a.le b) :=
  (order_failsWith _ a b).bind fun _ => .pure _

/-- So is whether it is at least the other one. -/
theorem ge_failsWith (a b : Value) : FailsWith (·.isData) (a.ge b) :=
  (order_failsWith _ a b).bind fun _ => .pure _

end Value

/-! ## Judging a value -/

namespace Policy

/-- Whether thresholds suit a policy cannot be told of values in no order, a fault of data. -/
theorem isValid_failsWith (p : Policy) (warn crit : Value) :
    FailsWith (·.isData) (p.isValid warn crit) := by
  unfold isValid
  refine .ite (fun _ => .ok _) fun _ => ?_
  cases p
  · exact Value.lt_failsWith _ _
  · exact Value.lt_failsWith _ _
  · exact .ok _

/-- Neither can the direction that thresholds tell. -/
theorem direction_failsWith (p : Policy) (warn crit : Value) :
    FailsWith (·.isData) (p.direction warn crit) := by
  cases p
  · exact .ok _
  · exact .ok _
  · unfold direction
    exact .ite (fun _ => .ok _) fun _ => (Value.ge_failsWith _ _).bind fun _ => .pure _

end Policy

namespace Threshold

/-- Neither can whether a value is as bad as a threshold. -/
theorem breached_failsWith (value threshold : Value) (d : Direction) :
    FailsWith (·.isData) (breached value threshold d) := by
  unfold breached
  refine .ite (fun _ => .ok _) fun _ => ?_
  cases d
  · exact Value.ge_failsWith _ _
  · exact Value.le_failsWith _ _

/-- So the severity of a value against its thresholds fails with faults of data only. -/
theorem severity_failsWith (value warn crit : Value) (d : Direction) :
    FailsWith (·.isData) (severity value warn crit d) :=
  (breached_failsWith _ _ _).bind fun _ => .ite (fun _ => .pure _) fun _ =>
    (breached_failsWith _ _ _).bind fun _ => .ite (fun _ => .pure _) fun _ => .pure _

/-- What a message shows of a value is missing only if the value has no text. -/
theorem displayText_failsWith (value : Value) (display : Option String) :
    FailsWith (·.isData) (displayText value display) := by
  cases display
  · exact Value.text_failsWith _
  · exact .ok _

/-- A value is judged, or there is a fault of data. -/
theorem evaluate_failsWith (value warn crit : Value) (p : Policy) (label : String)
    (display : Option String) :
    FailsWith (·.isData) (evaluate value warn crit p label display) := by
  refine (Policy.isValid_failsWith p warn crit).bind fun valid => ?_
  refine .ite (fun _ => ?_) fun _ => .pure _
  refine (Policy.direction_failsWith p warn crit).bind fun d => ?_
  refine (displayText_failsWith value display).bind fun _ => ?_
  exact (severity_failsWith _ _ _ _).bind fun _ => .pure _

end Threshold

end Vigil
