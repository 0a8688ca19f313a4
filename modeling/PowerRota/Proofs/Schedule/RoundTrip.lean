import PowerRota.Proofs.Calendar.Writing
import PowerRota.Schedule.Codec

/-! Triggers and schedules come back from JSON as they were.

Every value of these types is written and read back, in the parts first and then in the whole.
So whatever a JSON value was read as, in whatever form, is written in a form that is read as the
same. -/

set_option autoImplicit false

namespace PowerRota

open PowerRota.Calendar PowerRota.Data PowerRota.Json

namespace Json

theorem decodeNat_int {limit n : Nat} (fits : n < limit) (expected : String) :
    decodeNat limit expected (.int n) = .ok n := by
  have small : 0 ≤ (n : Int) ∧ (n : Int) < limit := by omega
  simp only [decodeNat, if_pos small, Int.toNat_natCast]

theorem decodeByte_int (n : UInt8) : decodeByte (.int n.toNat) = .ok n := by
  simp only [decodeByte, decodeNat_int n.toNat_lt, Except.map, UInt8.ofNat_toNat]

theorem check_of_ok {A : Type} {name : String} {decode : Json → Except Fault A} {json : Json}
    {value : A} (read : decode json = .ok value) : (check name decode).2 json = none := by
  simp only [check, read]

theorem required_of_lookup {A : Type} {members : List (String × Json)} {name : String}
    {decode : Json → Except Fault A} {json : Json} {value : A}
    (listed : members.lookup name = some json) (read : decode json = .ok value) :
    required members name decode = .ok value := by
  simp only [required, listed, read]

end Json

namespace Duration

theorem decode_object {members : List (String × Json)} {secs nanos : Nat}
    (faultless : memberFault? members = none)
    (secsRead : required members "secs" (decodeNat (Number.capacity 64) "u64") = .ok secs)
    (nanosRead : required members "nanos" (decodeNat (Number.capacity 32) "u32") = .ok nanos) :
    decode (.object members) = ofCarried secs nanos := by
  simp only [decode, faultless, secsRead, nanosRead, bind, Except.bind]

theorem ofCarried_self (d : Duration) : ofCarried d.secs d.nanos = .ok d := by
  have carry : d.nanos / 1000000000 = 0 ∧ d.nanos % 1000000000 = d.nanos := by
    have nanos_lt := d.nanos_lt
    omega
  simp [ofCarried, ofParts?, carry, d.secs_lt, d.nanos_lt]

theorem decode_encode (d : Duration) : decode d.encode = .ok d := by
  have width : Number.capacity 64 = 18446744073709551616 ∧ Number.capacity 32 = 4294967296 :=
    ⟨rfl, rfl⟩
  have secs : decodeNat (Number.capacity 64) "u64" (.int d.secs) = .ok d.secs :=
    decodeNat_int (width.1 ▸ d.secs_lt) "u64"
  have nanos : decodeNat (Number.capacity 32) "u32" (.int d.nanos) = .ok d.nanos := by
    have nanos_lt := d.nanos_lt
    exact decodeNat_int (by omega) "u32"
  have faultless : memberFault? [("nanos", .int d.nanos), ("secs", .int d.secs)] = none := by
    simp [memberFault?, check_of_ok secs, check_of_ok nanos]
  rw [encode, decode_object faultless (required_of_lookup rfl secs) (required_of_lookup rfl nanos),
    ofCarried_self]

end Duration

namespace Trigger

theorem decodeKind_label (kind : TriggerKind) : decodeKind (.string kind.label) = .ok kind := by
  cases kind <;> rfl

theorem decodeTime_render (time : TimeOfDay) : decodeTime (.string time.render) = .ok time := by
  simp [decodeTime, decodeString, time.read_render, bind, Except.bind]

theorem decodeTimestamp_renderZulu (timestamp : Timestamp) :
    decodeTimestamp (.string timestamp.renderZulu) = .ok timestamp := by
  simp [decodeTimestamp, timestamp.readRelaxed?_renderZulu]

theorem decode_interval {json : Json} {every : Duration} (read : Duration.decode json = .ok every) :
    decode (.object [("every", json), ("type", .string "interval")]) = .ok (.interval every) := by
  have kind : decodeKind (.string "interval") = .ok .interval := rfl
  simp [decode, decodeMembers, required, checkMembers, check, List.lookup_cons, kind, read, bind,
    Except.bind, pure, Except.pure]

theorem decode_encode (trigger : Trigger) : decode trigger.encode = .ok trigger := by
  have kind := decodeKind_label trigger.kind
  cases trigger with
  | interval every => exact decode_interval every.decode_encode
  | cron | daily | weekly | monthly | once =>
    simp only [Trigger.kind, TriggerKind.label] at kind
    simp [decode, encode, decodeMembers, required, checkMembers, check, List.lookup_cons, kind,
      decodeString, decodeTime_render, decodeByte_int, decodeTimestamp_renderZulu, bind,
      Except.bind, pure, Except.pure]

theorem decodeOption_encode (trigger : Trigger) :
    decodeOption decode trigger.encode = .ok (some trigger) := by
  have some_object : decodeOption decode trigger.encode = (decode trigger.encode).map some := by
    cases trigger <;> rfl
  rw [some_object, decode_encode]
  rfl

end Trigger

theorem ResourceKind.decode_label (kind : ResourceKind) :
    ResourceKind.decode (.string kind.label) = .ok kind := by
  cases kind <;> rfl

theorem Resource.decode_encode (resource : Resource) :
    Resource.decode resource.encode = .ok resource := by
  simp [Resource.decode, encode, required, checkMembers, check, List.lookup_cons, decodeString,
    ResourceKind.decode_label, bind, Except.bind, pure, Except.pure]

theorem Schedule.decode_encode (schedule : Schedule) :
    Schedule.decode schedule.encode = .ok schedule := by
  obtain ⟨name, resource, start, stop⟩ := schedule
  cases start <;> cases stop <;>
    simp [Schedule.decode, encode, required, Json.optional, checkMembers, check, List.lookup_cons,
      decodeString, Resource.decode_encode, Trigger.decodeOption_encode, bind, Except.bind, pure,
      Except.pure]

/-- What is written for a value is read as that value. -/
structure RoundTrip {A : Type} (encode : A → Json) (decode : Json → Except Fault A) : Prop where
  decode_encode : ∀ value, decode (encode value) = .ok value
  again : ∀ json value, decode json = .ok value → decode (encode value) = decode json

theorem RoundTrip.of_decode_encode {A : Type} {encode : A → Json} {decode : Json → Except Fault A}
    (decode_encode : ∀ value, decode (encode value) = .ok value) : RoundTrip encode decode where
  decode_encode := decode_encode
  again json value read := by rw [read, decode_encode]

theorem json_round_trip :
    RoundTrip Trigger.encode Trigger.decode ∧ RoundTrip Schedule.encode Schedule.decode :=
  ⟨.of_decode_encode Trigger.decode_encode, .of_decode_encode Schedule.decode_encode⟩

end PowerRota
