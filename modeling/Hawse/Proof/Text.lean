import Hawse.Lib.Fallible
import Hawse.Proto.Text

namespace Hawse.Proof.Text
open Lib.Fallible

theorem splitOnce_eq_none {c : Char} {s : List Char} : splitOnce c s = none ↔ c ∉ s := by
  induction s with
  | nil => simp [splitOnce]
  | cons d chars ih =>
      by_cases same : d = c
      · simp [splitOnce, same]
      · simp [splitOnce, same, ih, Ne.symm same]

theorem splitOnce_eq_some {c : Char} {s before after : List Char} :
    splitOnce c s = some (before, after) ↔ c ∉ before ∧ s = before ++ c :: after := by
  induction s generalizing before with
  | nil => simp [splitOnce]
  | cons d chars ih =>
      by_cases same : d = c
      · subst same
        cases before with
        | nil => simp [splitOnce]
        | cons e rest =>
            simp only [splitOnce, if_pos]
            constructor
            · intro split
              cases split
            · rintro ⟨free, whole⟩
              exact absurd (List.mem_cons.mpr (.inl (List.cons.inj whole).1)) free
      · cases before with
        | nil => simp [splitOnce, same]
        | cons e rest =>
            simp only [splitOnce, same, if_false, Option.map_eq_some_iff, Prod.mk.injEq, Prod.exists,
              List.cons.injEq, List.mem_cons, not_or, List.cons_append]
            constructor
            · rintro ⟨b, a, split, ⟨rfl, rfl⟩, rfl⟩
              exact ⟨⟨Ne.symm same, (ih.mp split).1⟩, rfl, (ih.mp split).2⟩
            · rintro ⟨⟨_, free⟩, rfl, whole⟩
              exact ⟨rest, after, ih.mpr ⟨free, whole⟩, ⟨rfl, rfl⟩, rfl⟩

theorem splitOnce_append {c : Char} {before : List Char} (after : List Char) (free : c ∉ before) :
    splitOnce c (before ++ c :: after) = some (before, after) :=
  splitOnce_eq_some.mpr ⟨free, rfl⟩

/-! ## Numbers -/

theorem isAsciiDigit_eq (c : Char) : Name.isAsciiDigit c = c.isDigit := by
  simp [Name.isAsciiDigit, Char.isDigit, Char.le_def]

theorem decimal_digit {n : Nat} {c : Char} (written : c ∈ decimal n) : Name.isAsciiDigit c := by
  rw [isAsciiDigit_eq]
  exact Nat.isDigit_of_mem_toDigits (by decide) (by decide) written

theorem not_mem_decimal {n : Nat} {c : Char} (other : Name.isAsciiDigit c = false) : c ∉ decimal n := by
  intro written
  exact absurd (decimal_digit written) (by simp [other])

theorem decimal_ne_nil (n : Nat) : decimal n ≠ [] := Nat.toDigits_ne_nil

theorem decimal_foldl (n : Nat) :
    (decimal n).foldl (fun value c => 10 * value + (c.toNat - '0'.toNat)) 0 = n :=
  Nat.ofDigitChars_ten_toDigits

theorem parseU16_digits {digits : List Char} (nonempty : digits ≠ []) (numeric : ∀ c ∈ digits, Name.isAsciiDigit c) :
    parseU16 digits =
      let value := digits.foldl (fun value c => 10 * value + (c.toNat - '0'.toNat)) 0
      if value < 2 ^ 16 then some (.ofNat value) else none := by
  have counted : digits ≠ [] ∧ digits.all Name.isAsciiDigit = true := ⟨nonempty, List.all_eq_true.mpr numeric⟩
  unfold parseU16
  split
  · -- A sign is no digit.
    exact absurd (numeric '+' List.mem_cons_self) (by decide)
  · rw [if_pos counted]

theorem parseU16_displayU16 (n : UInt16) : parseU16 (displayU16 n) = some n := by
  rw [displayU16, parseU16_digits (decimal_ne_nil _) fun c => decimal_digit, decimal_foldl]
  simp [n.toNat_lt]

theorem parseNumber_eq_ok {s : List Char} {n : UInt16} :
    parseNumber s = .ok n ↔ parseU16 s = some n ∧ n ≠ 0 := by
  unfold parseNumber
  cases parsed : parseU16 s with
  | none => simp
  | some m =>
      by_cases zero : m = 0
      · simp only [zero, if_pos, reduceCtorEq, Option.some.injEq, false_iff, not_and, not_not]
        exact Eq.symm
      · simp only [zero, if_false, Except.ok.injEq, Option.some.injEq]
        constructor
        · rintro rfl
          exact ⟨rfl, zero⟩
        · exact And.left

theorem parseNumber_display {n : UInt16} (positive : n ≠ 0) : parseNumber (displayU16 n) = .ok n :=
  parseNumber_eq_ok.mpr ⟨parseU16_displayU16 n, positive⟩

theorem not_mem_displayU16 {n : UInt16} {c : Char} (other : Name.isAsciiDigit c = false) : c ∉ displayU16 n :=
  not_mem_decimal other

/-! ## Ports -/

theorem splitKind_tcp {s : List Char} (plain : '/' ∉ s) : splitKind s = .ok (s, .tcp) := by
  rw [splitKind, splitOnce_eq_none.mpr plain]

theorem splitKind_udp {s : List Char} (plain : '/' ∉ s) :
    splitKind (s ++ '/' :: Kind.udp.asStr) = .ok (s, .udp) := by
  rw [splitKind, splitOnce_append _ plain]
  rfl

theorem splitKind_display {s : List Char} (plain : '/' ∉ s) (kind : Kind) :
    splitKind (s ++ if kind = .udp then '/' :: Kind.udp.asStr else []) = .ok (s, kind) := by
  cases kind with
  | tcp => simpa using splitKind_tcp plain
  | udp => exact splitKind_udp plain

theorem splitBounds_positive {s : List Char} {bounds : UInt16 × UInt16} (split : splitBounds s = .ok bounds) :
    bounds.1 ≠ 0 := by
  unfold splitBounds at split
  split at split
  · obtain ⟨n, number, rest⟩ := bind_eq_ok.mp split
    obtain ⟨m, _, pair⟩ := bind_eq_ok.mp rest
    cases pair
    exact (parseNumber_eq_ok.mp number).2
  · obtain ⟨n, number, pair⟩ := bind_eq_ok.mp split
    cases pair
    exact (parseNumber_eq_ok.mp number).2

theorem parseBounds_sound {s : List Char} {bounds : UInt16 × UInt16} (parsed : parseBounds s = .ok bounds) :
    bounds.1 ≠ 0 ∧ bounds.1 ≤ bounds.2 := by
  unfold parseBounds at parsed
  split at parsed
  · cases parsed
  · obtain ⟨found, split, ordered⟩ := bind_eq_ok.mp parsed
    split at ordered
    · cases ordered
    · next forwards =>
        cases ordered
        exact ⟨splitBounds_positive split, UInt16.not_lt.mp forwards⟩

theorem not_mem_displayBounds {c : Char} (other : Name.isAsciiDigit c = false) (apart : c ≠ '-')
    (first last : UInt16) : c ∉ displayBounds first last := by
  unfold displayBounds
  split
  · exact not_mem_displayU16 other
  · simp only [List.mem_append, List.mem_cons, not_or]
    exact ⟨not_mem_displayU16 other, apart, not_mem_displayU16 other⟩

theorem displayBounds_ne_nil (first last : UInt16) : displayBounds first last ≠ [] := by
  unfold displayBounds
  split
  · exact decimal_ne_nil _
  · simp

theorem splitBounds_display {first last : UInt16} (positive : first ≠ 0) (ordered : first ≤ last) :
    splitBounds (displayBounds first last) = .ok (first, last) := by
  have reaches : last ≠ 0 := by
    rintro rfl
    exact positive (UInt16.le_antisymm ordered (UInt16.zero_le))
  by_cases single : first = last
  · subst single
    have whole : splitOnce '-' (displayU16 first) = none := splitOnce_eq_none.mpr (not_mem_displayU16 (by decide))
    simp only [splitBounds, displayBounds, if_pos, whole, parseNumber_display positive]
    rfl
  · have parts := splitOnce_append (displayU16 last) (not_mem_displayU16 (c := '-') (n := first) (by decide))
    simp only [splitBounds, displayBounds, single, if_false, parts, parseNumber_display positive,
      parseNumber_display reaches]
    rfl

theorem parseBounds_display {first last : UInt16} (positive : first ≠ 0) (ordered : first ≤ last) :
    parseBounds (displayBounds first last) = .ok (first, last) := by
  rw [parseBounds, if_neg (displayBounds_ne_nil first last), splitBounds_display positive ordered]
  exact if_neg (UInt16.not_lt.mpr ordered)

theorem parsed_sound {body : List Char} {first last : UInt16} (parsed : parseBounds body = .ok (first, last)) :
    1 ≤ first.toNat ∧ first.toNat ≤ last.toNat ∧ last.toNat ≤ 65535 := by
  obtain ⟨positive, ordered⟩ := parseBounds_sound parsed
  refine ⟨Nat.one_le_iff_ne_zero.mpr fun zero => positive (UInt16.toNat.inj zero), ordered, ?_⟩
  exact Nat.le_of_lt_succ last.toNat_lt

/-- A type's text and its serialized form, with the bounds its values are to keep. -/
structure Written (α : Type) where
  bounds : α → List (UInt16 × UInt16)
  display : α → List Char
  fromStr : List Char → Except ParsePortError α
  serialize : α → Value
  deserialize : Value → Except DeserializeError α

namespace Written

def range : Written PortRange where
  bounds range := [(range.first, range.last)]
  display := PortRange.display
  fromStr := PortRange.fromStr
  serialize := PortRange.serialize
  deserialize := PortRange.deserialize

def span : Written PortSpan where
  bounds span := [(span.first, span.last)]
  display := PortSpan.display
  fromStr := PortSpan.fromStr
  serialize := PortSpan.serialize
  deserialize := PortSpan.deserialize

def port : Written Port where
  bounds port := [(port.number, port.number)]
  display := Port.display
  fromStr := Port.fromStr
  serialize := Port.serialize
  deserialize := Port.deserialize

def request : Written PortRequest where
  bounds
    | .any _ => []
    | .fixed port => [(port.number, port.number)]
  display := PortRequest.display
  fromStr := PortRequest.fromStr
  serialize := PortRequest.serialize
  deserialize := PortRequest.deserialize

variable {α : Type}

def Denotes (w : Written α) (a : α) : Prop :=
  ∀ bounds ∈ w.bounds a, 1 ≤ bounds.1.toNat ∧ bounds.1.toNat ≤ bounds.2.toNat ∧ bounds.2.toNat ≤ 65535

structure RoundTrips (w : Written α) : Prop where
  parsed : ∀ a, w.Denotes a → w.fromStr (w.display a) = .ok a
  deserialized : ∀ a, w.Denotes a → w.deserialize (w.serialize a) = .ok a
  accepted : ∀ s a, w.fromStr s = .ok a → w.Denotes a
  again : ∀ s a, w.fromStr s = .ok a → w.fromStr (w.display a) = .ok a

theorem RoundTrips.of {w : Written α} (parsed : ∀ a, w.Denotes a → w.fromStr (w.display a) = .ok a)
    (deserialized : ∀ a, w.Denotes a → w.deserialize (w.serialize a) = .ok a)
    (accepted : ∀ s a, w.fromStr s = .ok a → w.Denotes a) : w.RoundTrips :=
  ⟨parsed, deserialized, accepted, fun s a read => parsed a (accepted s a read)⟩

end Written

theorem positive_ordered {first last : UInt16}
    (denotes : 1 ≤ first.toNat ∧ first.toNat ≤ last.toNat ∧ last.toNat ≤ 65535) : first ≠ 0 ∧ first ≤ last := by
  refine ⟨?_, denotes.2.1⟩
  rintro rfl
  exact absurd denotes.1 (by decide)

theorem range_parsed (range : PortRange) (denotes : Written.range.Denotes range) :
    PortRange.fromStr range.display = .ok range := by
  obtain ⟨positive, ordered⟩ := positive_ordered (denotes _ List.mem_cons_self)
  have body : '/' ∉ displayBounds range.first range.last := not_mem_displayBounds (by decide) (by decide) _ _
  have bounds := parseBounds_display positive ordered
  exact bind_eq_ok.mpr ⟨_, splitKind_display body range.kind, bind_eq_ok.mpr ⟨_, bounds, rfl⟩⟩

theorem span_parsed (span : PortSpan) (denotes : Written.span.Denotes span) :
    PortSpan.fromStr span.display = .ok span := by
  obtain ⟨positive, ordered⟩ := positive_ordered (denotes _ List.mem_cons_self)
  have body : '/' ∉ displayBounds span.first span.last := not_mem_displayBounds (by decide) (by decide) _ _
  simp only [PortSpan.fromStr, PortSpan.display, splitOnce_eq_none.mpr body]
  exact bind_eq_ok.mpr ⟨_, parseBounds_display positive ordered, rfl⟩

theorem port_display (port : Port) : port.display =
    displayU16 port.number ++ if port.kind = .udp then '/' :: Kind.udp.asStr else [] := by
  unfold Port.display
  cases port.kind <;> simp

theorem port_parsed (port : Port) (denotes : Written.port.Denotes port) : Port.fromStr port.display = .ok port := by
  obtain ⟨positive, _⟩ := positive_ordered (denotes _ List.mem_cons_self)
  have body : '/' ∉ displayU16 port.number := not_mem_displayU16 (by decide)
  have written : port.display ≠ [] := by
    rw [port_display]
    simp [displayU16, decimal_ne_nil]
  simp only [Port.fromStr, if_neg written]
  rw [port_display]
  have number := parseNumber_display positive
  exact bind_eq_ok.mpr ⟨_, splitKind_display body port.kind, bind_eq_ok.mpr ⟨_, number, rfl⟩⟩

theorem port_accepted {s : List Char} {port : Port} (parsed : Port.fromStr s = .ok port) :
    Written.port.Denotes port := by
  unfold Port.fromStr at parsed
  split at parsed
  · cases parsed
  · obtain ⟨⟨body, kind⟩, _, rest⟩ := bind_eq_ok.mp parsed
    obtain ⟨number, read, built⟩ := bind_eq_ok.mp rest
    cases built
    intro bounds member
    cases List.mem_singleton.mp member
    have positive := (parseNumber_eq_ok.mp read).2
    refine ⟨Nat.one_le_iff_ne_zero.mpr fun zero => positive (UInt16.toNat.inj zero), le_refl _, ?_⟩
    exact Nat.le_of_lt_succ number.toNat_lt

theorem range_accepted (s : List Char) (range : PortRange) (parsed : PortRange.fromStr s = .ok range) :
    Written.range.Denotes range := by
  obtain ⟨⟨body, kind⟩, _, rest⟩ := bind_eq_ok.mp parsed
  obtain ⟨⟨first, last⟩, read, built⟩ := bind_eq_ok.mp rest
  cases built
  intro bounds member
  cases List.mem_singleton.mp member
  exact parsed_sound read

theorem span_sound {s : List Char} {span : PortSpan} (parsed : PortSpan.fromStr s = .ok span) :
    '/' ∉ s ∧ parseBounds s = .ok (span.first, span.last) := by
  unfold PortSpan.fromStr at parsed
  split at parsed
  · cases parsed
  · next plain =>
      obtain ⟨⟨first, last⟩, read, built⟩ := bind_eq_ok.mp parsed
      cases built
      exact ⟨splitOnce_eq_none.mp plain, read⟩

theorem span_accepted (s : List Char) (span : PortSpan) (parsed : PortSpan.fromStr s = .ok span) :
    Written.span.Denotes span := by
  intro bounds member
  cases List.mem_singleton.mp member
  exact parsed_sound (span_sound parsed).2

/-! ## Requests -/

theorem port_display_head (port : Port) : ∃ c rest, port.display = c :: rest ∧ Name.isAsciiDigit c := by
  obtain ⟨c, rest, digits⟩ := List.exists_cons_of_ne_nil (decimal_ne_nil port.number.toNat)
  have numeric : Name.isAsciiDigit c := decimal_digit (n := port.number.toNat) (digits ▸ List.mem_cons_self)
  rw [port_display, displayU16, digits, List.cons_append]
  exact ⟨c, _, rfl, numeric⟩

theorem request_fixed {s : List Char} {port : Port} (parsed : PortRequest.fromStr s = .ok (.fixed port)) :
    Port.fromStr s = .ok port := by
  unfold PortRequest.fromStr at parsed
  split at parsed
  · cases parsed
  · split at parsed
    · cases parsed
    · split at parsed
      · cases parsed
      · cases read : Port.fromStr s with
        | error err =>
            rw [read] at parsed
            cases parsed
        | ok found =>
            rw [read] at parsed
            cases parsed
            rfl

theorem request_of_port {s : List Char} {port : Port} (digit : ∃ c rest, s = c :: rest ∧ Name.isAsciiDigit c)
    (parsed : Port.fromStr s = .ok port) : PortRequest.fromStr s = .ok (.fixed port) := by
  obtain ⟨c, rest, rfl, numeric⟩ := digit
  have other : c ≠ 'a' := by
    rintro rfl
    exact absurd numeric (by decide)
  simp [PortRequest.fromStr, other, Ne.symm other, parsed, Except.map]

theorem parseU16_head {c : Char} {rest : List Char} {n : UInt16} (parsed : parseU16 (c :: rest) = some n) :
    c = '+' ∨ Name.isAsciiDigit c := by
  unfold parseU16 at parsed
  split at parsed
  · next signed => exact .inl (List.cons.inj signed).1
  · simp only at parsed
    split at parsed
    · next counted => exact .inr (List.all_eq_true.mp counted.2 c List.mem_cons_self)
    · cases parsed

theorem splitKind_head {c : Char} {rest body : List Char} {kind : Kind} (apart : c ≠ '/')
    (split : splitKind (c :: rest) = .ok (body, kind)) : ∃ more, body = c :: more := by
  unfold splitKind at split
  split at split
  · cases split
    exact ⟨rest, rfl⟩
  · next n proto found =>
      obtain ⟨_, whole⟩ := splitOnce_eq_some.mp found
      have same : n = body := by
        split at split
        · cases split
          rfl
        · split at split
          · cases split
            rfl
          · cases split
      subst same
      cases n with
      | nil => exact absurd (List.cons.inj whole).1 apart
      | cons d more =>
          rw [(List.cons.inj whole).1]
          exact ⟨more, rfl⟩

theorem port_head {c : Char} {rest : List Char} {port : Port} (parsed : Port.fromStr (c :: rest) = .ok port)
    (apart : c ≠ '/') : c = '+' ∨ Name.isAsciiDigit c := by
  unfold Port.fromStr at parsed
  rw [if_neg (List.cons_ne_nil c rest)] at parsed
  obtain ⟨⟨body, kind⟩, split, rest⟩ := bind_eq_ok.mp parsed
  obtain ⟨number, read, _⟩ := bind_eq_ok.mp rest
  obtain ⟨more, rfl⟩ := splitKind_head apart split
  exact parseU16_head (parseNumber_eq_ok.mp read).1

theorem any_not_fixed {s : List Char} (named : ['a', 'n', 'y'] <+: s) (port : Port) :
    PortRequest.fromStr s ≠ .ok (.fixed port) := by
  intro parsed
  obtain ⟨rest, rfl⟩ := named
  rcases port_head (request_fixed parsed) (by decide) with signed | numeric
  · exact absurd signed (by decide)
  · exact absurd numeric (by decide)

theorem request_parsed (request : PortRequest) (denotes : Written.request.Denotes request) :
    PortRequest.fromStr request.display = .ok request := by
  cases request with
  | any kind => cases kind <;> decide
  | fixed port => exact request_of_port (port_display_head port) (port_parsed port denotes)

theorem request_accepted (s : List Char) (request : PortRequest) (parsed : PortRequest.fromStr s = .ok request) :
    Written.request.Denotes request := by
  cases request with
  | any kind =>
      intro bounds member
      cases member
  | fixed port => exact port_accepted (request_fixed parsed)

/-! ## Serialized forms -/

theorem number_u16 (n : UInt16) : Value.u16 (.number n.toNat) = .ok n := by
  have fits : 0 ≤ (n.toNat : Int) ∧ (n.toNat : Int) < 2 ^ 16 := ⟨Int.natCast_nonneg _, by exact_mod_cast n.toNat_lt⟩
  rw [Value.u16, if_pos fits, Int.toNat_natCast]
  simp

theorem port_deserialized (port : Port) : Port.deserialize port.serialize = .ok port := by
  have number : Value.field "number" port.serialize = .ok (.number port.number.toNat) := rfl
  have kind : Value.field "kind" port.serialize = .ok port.kind.variant := rfl
  have read : Kind.ofVariant port.kind.variant = .ok port.kind := by cases port.kind <;> rfl
  exact bind_eq_ok.mpr ⟨_, number, bind_eq_ok.mpr ⟨_, number_u16 _, bind_eq_ok.mpr ⟨_, kind,
    bind_eq_ok.mpr ⟨_, read, rfl⟩⟩⟩⟩

theorem request_deserialized (request : PortRequest) (denotes : Written.request.Denotes request) :
    PortRequest.deserialize request.serialize = .ok request := by
  have text : custom (PortRequest.fromStr request.display) = .ok request := by
    rw [request_parsed request denotes]
    rfl
  cases request with
  | any kind => exact text
  | fixed port =>
      obtain ⟨number, kind⟩ := port
      cases kind with
      | tcp =>
          have positive : number ≠ 0 := (positive_ordered (denotes _ List.mem_cons_self)).1
          exact bind_eq_ok.mpr ⟨number, number_u16 number, if_neg positive⟩
      | udp => exact text

theorem portTexts_roundTrip :
    (Written.range.RoundTrips ∧ Written.span.RoundTrips ∧ Written.port.RoundTrips ∧ Written.request.RoundTrips) ∧
    (∀ s span, PortSpan.fromStr s = .ok span → '/' ∉ s) ∧
    ∀ s, ['a', 'n', 'y'] <+: s → ∀ port, PortRequest.fromStr s ≠ .ok (.fixed port) := by
  refine ⟨⟨?_, ?_, ?_, ?_⟩, fun s span parsed => (span_sound parsed).1, fun s => any_not_fixed⟩
  · refine .of range_parsed (fun range denotes => ?_) range_accepted
    exact congrArg custom (range_parsed range denotes)
  · refine .of span_parsed (fun span denotes => ?_) span_accepted
    exact congrArg custom (span_parsed span denotes)
  · exact .of port_parsed (fun port _ => port_deserialized port) fun s port => port_accepted
  · exact .of request_parsed request_deserialized request_accepted

end Hawse.Proof.Text
