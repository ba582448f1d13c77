import RpcTelemetry.Proofs.Propagation.Continuity

/-!
# The identity of a method

The name of a method without its leading slash is parted by its last slash. Service and method give
the name back, so two calls are measured under one identity only if they call one method.

Results:
1. `IsParted.unique`, `exists_isParted`: a name with a slash is parted in one way.
2. `parse_of_isParted`, `parse_of_free`, `parse_of_unled`: what a name is parsed into.
3. `parse_loses_nothing`: all of this, for every name, and that names are told apart by their
   attributes and calls by their identities.
-/

namespace RpcTelemetry.Method

open Text

/-- A name is a service, a slash and a method without slashes. Both may be empty. -/
def IsParted (name service method : String) : Prop :=
  name = service ++ "/" ++ method ∧ '/' ∉ method.toList

/-- A full name of a service and a method that are not empty. -/
def IsWellFormed (fullName : String) : Prop :=
  ∃ name service method,
    fullName = "/" ++ name ∧ IsParted name service method ∧ service ≠ "" ∧ method ≠ ""

theorem isParted_iff {name service method : String} :
    IsParted name service method ↔
      serviceAndMethod? name.toList = some (service.toList, method.toList) := by
  rw [serviceAndMethod?, cutLast_eq_some_iff, IsParted, ← String.toList_inj]
  simp

/-- A name is parted in at most one way. -/
theorem IsParted.unique {name service service' method method' : String}
    (first : IsParted name service method) (second : IsParted name service' method') :
    service' = service ∧ method' = method := by
  have same := (isParted_iff.1 second).symm.trans (isParted_iff.1 first)
  obtain ⟨sameService, sameMethod⟩ := Prod.mk.inj (Option.some.inj same)
  exact ⟨String.toList_inj.1 sameService, String.toList_inj.1 sameMethod⟩

theorem exists_isParted {name : String} (slashed : '/' ∈ name.toList) :
    ∃ service method, IsParted name service method := by
  cases cut : serviceAndMethod? name.toList with
  | none => exact absurd slashed (cutLast_eq_none_iff.1 cut)
  | some parts =>
    refine ⟨String.ofList parts.1, String.ofList parts.2, isParted_iff.2 ?_⟩
    rw [cut, String.toList_ofList, String.toList_ofList]

/-! ## What a name is parsed into -/

/-- A name without a leading slash is the name of the span. -/
theorem parse_of_unled {fullName : String} (unled : ∀ name, fullName ≠ "/" ++ name) :
    parse fullName = (fullName, []) := by
  unfold parse
  split
  · next name led =>
    refine absurd (String.toList_inj.1 ?_) (unled (String.ofList name))
    simp [led]
  · rfl

theorem parse_led (name : String) :
    parse ("/" ++ name) =
      match serviceAndMethod? name.toList with
      | none => (name, [])
      | some (service, method) =>
        (name, partAttribute Convention.rpcService service ++
          partAttribute Convention.rpcMethod method) := by
  have led : ("/" ++ name).toList = '/' :: name.toList := by simp
  cases parted : serviceAndMethod? name.toList with
  | none => simp only [parse, led, parted, String.ofList_toList]
  | some parts => simp only [parse, led, parted, String.ofList_toList]

/-- So is a name without a second slash. -/
theorem parse_of_free {name : String} (free : '/' ∉ name.toList) :
    parse ("/" ++ name) = (name, []) := by
  have uncut : serviceAndMethod? name.toList = none := cutLast_eq_none_iff.2 free
  rw [parse_led, uncut]

theorem partAttribute_toList (key part : String) :
    partAttribute key part.toList = if part = "" then [] else [⟨key, .text part⟩] := by
  simp [partAttribute, Attribute.ofText]

/-- Every other name has those of its parts that are not empty as attributes. -/
theorem parse_of_isParted {name service method : String} (parted : IsParted name service method) :
    parse ("/" ++ name) = (name,
      (if service = "" then [] else [⟨"rpc.service", .text service⟩]) ++
        if method = "" then [] else [⟨"rpc.method", .text method⟩]) := by
  rw [parse_led, isParted_iff.1 parted]
  simp only [partAttribute_toList]
  rfl

/-! ## What attributes tell of a name -/

/-- A name with both attributes is put together from them. -/
theorem eq_of_attributes {fullName service method : String}
    (hasService : ⟨"rpc.service", .text service⟩ ∈ (parse fullName).2)
    (hasMethod : ⟨"rpc.method", .text method⟩ ∈ (parse fullName).2) :
    fullName = "/" ++ (service ++ "/" ++ method) := by
  by_cases led : ∃ name, fullName = "/" ++ name
  · obtain ⟨name, rfl⟩ := led
    by_cases slashed : '/' ∈ name.toList
    · obtain ⟨service', method', parted⟩ := exists_isParted slashed
      rw [parse_of_isParted parted] at hasService hasMethod
      obtain rfl : service = service' := by grind
      obtain rfl : method = method' := by grind
      rw [parted.1]
    · rw [parse_of_free slashed] at hasService
      cases hasService
  · rw [parse_of_unled (not_exists.1 led)] at hasService
    cases hasService

/-- A well-formed name has both attributes. -/
theorem IsWellFormed.exists_attributes {fullName : String} (wellFormed : IsWellFormed fullName) :
    ∃ service method, (parse fullName).2 =
      [⟨"rpc.service", .text service⟩, ⟨"rpc.method", .text method⟩] := by
  obtain ⟨name, service, method, rfl, parted, someService, someMethod⟩ := wellFormed
  refine ⟨service, method, ?_⟩
  rw [parse_of_isParted parted, if_neg someService, if_neg someMethod]
  rfl

/-- A well-formed name is the only one with its identity. -/
theorem IsWellFormed.eq_of_identity {fullName other : String} (wellFormed : IsWellFormed fullName)
    (same : identity fullName = identity other) : fullName = other := by
  obtain ⟨service, method, attributes⟩ := wellFormed.exists_attributes
  have shared : (parse other).2 = (parse fullName).2 := (List.append_cancel_right same).symm
  calc fullName
      = "/" ++ (service ++ "/" ++ method) := eq_of_attributes (by simp [attributes])
          (by simp [attributes])
    _ = other := (eq_of_attributes (by simp [shared, attributes])
          (by simp [shared, attributes])).symm

/-- A recorded call is measured under the identity of its method. -/
theorem identity_of_recorded {handler : Handler} {info : CallInfo} {attributes : List Attribute}
    (recorded : handler.trackingOf info = .recorded attributes) :
    attributes = identity info.fullMethod := by
  unfold Handler.trackingOf at recorded
  split at recorded
  · exact (Tracking.recorded.inj recorded).symm
  · cases recorded

/-- Parsing loses nothing of a name. Without a leading slash it is the name of the span as it is;
with one and no other, it is so without the slash. Every other name is parted in exactly one way
into a service and a method without slashes, and those that are not empty are its attributes. So two
names with both attributes in common are the same, and a recorded call of a well-formed method is
never measured under the identity of a call of another one. -/
theorem parse_loses_nothing (fullName : String) :
    ((∀ name, fullName ≠ "/" ++ name) → parse fullName = (fullName, [])) ∧
      (∀ name, fullName = "/" ++ name → '/' ∉ name.toList → parse fullName = (name, [])) ∧
      (∀ name, fullName = "/" ++ name → '/' ∈ name.toList →
        ∃ service method, IsParted name service method ∧
          (∀ service' method', IsParted name service' method' →
            service' = service ∧ method' = method) ∧
          parse fullName = (name,
            (if service = "" then [] else [⟨"rpc.service", .text service⟩]) ++
              if method = "" then [] else [⟨"rpc.method", .text method⟩])) ∧
      (∀ other service method,
        ⟨"rpc.service", .text service⟩ ∈ (parse fullName).2 →
        ⟨"rpc.method", .text method⟩ ∈ (parse fullName).2 →
        ⟨"rpc.service", .text service⟩ ∈ (parse other).2 →
        ⟨"rpc.method", .text method⟩ ∈ (parse other).2 → fullName = other) ∧
      (∀ other, IsWellFormed fullName → fullName ≠ other → identity fullName ≠ identity other) ∧
      ∀ (call other : Tagging) (attributes : List Attribute), IsWellFormed fullName →
        call.info.fullMethod = fullName → call.tagged.2.tracking = .recorded attributes →
        other.tagged.2.tracking = .recorded attributes → other.info.fullMethod = fullName := by
  refine ⟨parse_of_unled, ?_, ?_, ?_, ?_, ?_⟩
  · rintro name rfl free
    exact parse_of_free free
  · rintro name rfl slashed
    obtain ⟨service, method, parted⟩ := exists_isParted slashed
    exact ⟨service, method, parted, fun _ _ => parted.unique, parse_of_isParted parted⟩
  · intro other service method hasService hasMethod hasService' hasMethod'
    exact (eq_of_attributes hasService hasMethod).trans
      (eq_of_attributes hasService' hasMethod').symm
  · intro other wellFormed distinct same
    exact distinct (wellFormed.eq_of_identity same)
  · rintro call other attributes wellFormed rfl recorded recorded'
    rw [Tagging.tagged, World.tracking_tag] at recorded recorded'
    exact (wellFormed.eq_of_identity
      ((identity_of_recorded recorded).symm.trans (identity_of_recorded recorded'))).symm

/-- A service with a slash of its own: the last slash parts the name. -/
theorem parse_of_nested_service :
    parse "/a/b/Get" =
      ("a/b/Get", [⟨"rpc.service", .text "a/b"⟩, ⟨"rpc.method", .text "Get"⟩]) := by
  obtain ⟨service, method, -, unique, parsed⟩ :=
    (parse_loses_nothing "/a/b/Get").2.2.1 "a/b/Get" (by decide) (by decide)
  obtain ⟨rfl, rfl⟩ := unique "a/b" "Get" ⟨by decide, by decide⟩
  rw [parsed, if_neg (by decide), if_neg (by decide)]
  rfl

end RpcTelemetry.Method
