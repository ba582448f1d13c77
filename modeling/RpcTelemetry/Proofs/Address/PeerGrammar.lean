import RpcTelemetry.Peer

/-!
# The grammar of peers

The text of a peer is taken apart at the first closing bracket or at the last colon, depending on
its first character. Here the two ways together are one grammar: a host that the form allows, a
colon, and a port, which is any text in the first step and a number of 64 bits in the second.

Results:
1. `Text.int64?_eq_some_iff`: what is read as a port is a sign or none, then digits, within 64 bits.
2. `Peer.split?_eq_some_iff`: what is taken apart is what one of the two forms writes. A bare host
   is cut off at the last colon, so its port has none.
3. `Peer.attributes_of_grammar`: a peer has attributes exactly if it is in the grammar, in one way
   only, and which attributes; otherwise one log entry tells how far the reader has come.
-/

namespace RpcTelemetry

namespace Text

/-- Texts of whole numbers: a sign or none, then at least one digit. -/
inductive IsInteger : List Char → Int → Prop
  | unsigned {digits : List Char} : digits ≠ [] → (∀ c ∈ digits, c.isDigit = true) →
      IsInteger digits (Nat.ofDigitChars 10 digits 0)
  | plus {digits : List Char} : digits ≠ [] → (∀ c ∈ digits, c.isDigit = true) →
      IsInteger ('+' :: digits) (Nat.ofDigitChars 10 digits 0)
  | minus {digits : List Char} : digits ≠ [] → (∀ c ∈ digits, c.isDigit = true) →
      IsInteger ('-' :: digits) (-(Nat.ofDigitChars 10 digits 0 : Int))

/-- In radix ten the digits are the ten ASCII ones, and no letter is. -/
theorem digitValue?_ten (c : Char) :
    digitValue? 10 c = if c.isDigit then some (c.toNat - '0'.toNat) else none := by
  have digit : c.isDigit = decide ('0' ≤ c ∧ c ≤ '9') := by
    rw [Char.isDigit, Bool.decide_and]
    rfl
  rw [digit]
  unfold digitValue?
  by_cases among : '0' ≤ c ∧ c ≤ '9'
  · have top : c.toNat ≤ 57 := among.2
    have below : c.toNat - '0'.toNat < 10 := by
      show c.toNat - 48 < 10
      omega
    rw [if_pos among, decide_eq_true among, if_pos rfl]
    exact Option.filter_some_pos (decide_eq_true below)
  · simp only [if_neg among, decide_eq_true_eq]
    split
    · simp
    · split <;> simp

theorem appendDigits?_ten (value : Nat) (text : List Char) :
    appendDigits? 10 value text =
      if text.all Char.isDigit then some (Nat.ofDigitChars 10 text value) else none := by
  induction text generalizing value with
  | nil => rfl
  | cons c rest ih =>
    rw [appendDigits?, digitValue?_ten, Nat.ofDigitChars_cons, List.all_cons]
    cases c.isDigit with
    | true => simp only [if_true, Option.bind_some, ih, Nat.mul_comm value, Bool.true_and]
    | false => rfl

theorem natural?_ten_eq_some_iff {text : List Char} {value : Nat} :
    natural? 10 text = some value ↔
      text ≠ [] ∧ (∀ c ∈ text, c.isDigit = true) ∧ Nat.ofDigitChars 10 text 0 = value := by
  rw [natural?, appendDigits?_ten, ← List.all_eq_true]
  cases text with
  | nil => simp
  | cons c rest => simp

theorem IsInteger.of_natural? {text : List Char} {value : Nat}
    (read : natural? 10 text = some value) :
    IsInteger text value ∧ IsInteger ('+' :: text) value ∧ IsInteger ('-' :: text) (-value) := by
  obtain ⟨filled, digits, rfl⟩ := natural?_ten_eq_some_iff.1 read
  exact ⟨.unsigned filled digits, .plus filled digits, .minus filled digits⟩

/-- A signed number of 64 bits is read exactly from the texts that write one. -/
theorem int64?_eq_some_iff {text : List Char} {number : Int} :
    int64? text = some number ↔ IsInteger text number ∧
      -9223372036854775808 ≤ number ∧ number ≤ 9223372036854775807 := by
  have lowest : Int64.minValue.toInt = -9223372036854775808 := by decide
  have highest : Int64.maxValue.toInt = 9223372036854775807 := by decide
  unfold int64?
  dsimp only
  rw [Option.filter_eq_some_iff, decide_eq_true_eq, lowest, highest, and_congr_left_iff]
  intro _
  constructor
  · intro read
    split at read
    · obtain ⟨_, lifted, rfl⟩ := Option.map_eq_some_iff.1 read
      obtain ⟨value, found, same⟩ := Option.bind_eq_some_iff.1 lifted
      obtain rfl := Option.some.inj same
      exact (IsInteger.of_natural? found).2.2
    · obtain ⟨value, found, rfl⟩ := Option.map_eq_some_iff.1 read
      exact (IsInteger.of_natural? found).2.1
    · obtain ⟨value, found, rfl⟩ := Option.map_eq_some_iff.1 read
      exact (IsInteger.of_natural? found).1
  · intro written
    cases written with
    | plus filled digits =>
      simp only [natural?_ten_eq_some_iff.2 ⟨filled, digits, rfl⟩]
      rfl
    | minus filled digits =>
      simp only [natural?_ten_eq_some_iff.2 ⟨filled, digits, rfl⟩]
      rfl
    | unsigned filled digits =>
      -- Neither sign is a digit, so the last branch of the reader is taken.
      have read := natural?_ten_eq_some_iff.2 ⟨filled, digits, rfl⟩
      split
      · exact absurd (digits '-' List.mem_cons_self) (by decide)
      · exact absurd (digits '+' List.mem_cons_self) (by decide)
      · rw [read]
        rfl

theorem IsInteger.not_mem {text : List Char} {number : Int} (written : IsInteger text number)
    {c : Char} (noDigit : c.isDigit = false) (noPlus : c ≠ '+') (noMinus : c ≠ '-') :
    c ∉ text := by
  have free {digits : List Char} (all : ∀ c ∈ digits, c.isDigit = true) : c ∉ digits :=
    fun present => by simp [all c present] at noDigit
  cases written with
  | unsigned _ digits => exact free digits
  | plus _ digits => exact List.not_mem_cons_of_ne_of_not_mem noPlus (free digits)
  | minus _ digits => exact List.not_mem_cons_of_ne_of_not_mem noMinus (free digits)

end Text

open Text

namespace Peer

/-- The two forms of a host and a port: with a bare host, and with the host in brackets. -/
inductive Form where
  | bare
  | bracketed
  deriving DecidableEq, Repr

/-- A host and a port in a form. -/
def Form.write (host port : List Char) : Form → List Char
  | .bare => host ++ ':' :: port
  | .bracketed => '[' :: (host ++ ']' :: ':' :: port)

/-- The hosts of a form. -/
def Form.Allows (host : List Char) : Form → Prop
  | .bare => ':' ∉ host ∧ '[' ∉ host ∧ ']' ∉ host
  | .bracketed => ']' ∉ host

/-- A form that a text is written in, and the host and the port in it. -/
def Writes (form : Form) (host port text : List Char) : Prop :=
  form.Allows host ∧ text = form.write host port

/-- The ports that a text is taken apart into: the reader of a bare host looks for the last
colon. -/
def Form.EndsIn (port : List Char) : Form → Prop
  | .bare => ':' ∉ port
  | .bracketed => True

theorem split?_bracketed (rest : List Char) :
    split? ('[' :: rest) = (cutFirst ']' rest).bind fun (host, tail) =>
      (dropLead? [':'] tail).map fun port => (host, port) := by
  rw [split?]
  cases cutFirst ']' rest with
  | none => rfl
  | some parts =>
    show (dropLead? [':'] parts.2).bind _ = (dropLead? [':'] parts.2).map _
    cases dropLead? [':'] parts.2 <;> rfl

theorem split?_bare {text : List Char} (unbracketed : ∀ rest, text ≠ '[' :: rest) :
    split? text = (cutLast ':' text).bind fun (host, port) =>
      if ':' ∈ host ∨ '[' ∈ host ∨ ']' ∈ host then none else some (host, port) := by
  have found (host : List Char) :
      (host.any fun c => c = ':' ∨ c = '[' ∨ c = ']') = true ↔
        ':' ∈ host ∨ '[' ∈ host ∨ ']' ∈ host := by
    simp only [List.any_eq_true, decide_eq_true_eq]
    constructor
    · rintro ⟨c, present, rfl | rfl | rfl⟩
      · exact .inl present
      · exact .inr (.inl present)
      · exact .inr (.inr present)
    · rintro (present | present | present)
      · exact ⟨_, present, .inl rfl⟩
      · exact ⟨_, present, .inr (.inl rfl)⟩
      · exact ⟨_, present, .inr (.inr rfl)⟩
  rw [split?]
  · cases cutLast ':' text with
    | none => rfl
    | some parts =>
      show (if (parts.1.any fun c => c = ':' ∨ c = '[' ∨ c = ']') = true then none
        else some (parts.1, parts.2)) = _
      simp only [found]
      rfl
  · exact unbracketed

/-- A text is taken apart into a host and a port exactly if a form writes them so. -/
theorem split?_eq_some_iff {text host port : List Char} :
    split? text = some (host, port) ↔
      ∃ form, Writes form host port text ∧ form.EndsIn port := by
  by_cases bracketed : ∃ rest, text = '[' :: rest
  · obtain ⟨rest, rfl⟩ := bracketed
    rw [split?_bracketed]
    constructor
    · intro taken
      obtain ⟨⟨front, tail⟩, cut, dropped⟩ := Option.bind_eq_some_iff.1 taken
      obtain ⟨back, led, same⟩ := Option.map_eq_some_iff.1 dropped
      obtain ⟨rfl, rfl⟩ := Prod.mk.inj same
      obtain ⟨rfl, free⟩ := eq_append_of_cutFirst cut
      obtain rfl := dropLead?_eq_some_iff.1 led
      exact ⟨.bracketed, ⟨free, rfl⟩, trivial⟩
    · rintro ⟨form, ⟨allowed, written⟩, -⟩
      cases form with
      | bare =>
        -- A bare host does not start with a bracket.
        cases host with
        | nil => exact absurd (List.cons.inj written).1 (by decide)
        | cons first others =>
          exact absurd (List.cons.inj written).1 fun same => allowed.2.1 (same ▸ List.mem_cons_self)
      | bracketed =>
        obtain rfl := (List.cons.inj written).2
        rw [cutFirst_append allowed]
        rfl
  · have unbracketed : ∀ rest, text ≠ '[' :: rest := fun rest same => bracketed ⟨rest, same⟩
    rw [split?_bare unbracketed]
    constructor
    · intro taken
      obtain ⟨⟨front, back⟩, cut, kept⟩ := Option.bind_eq_some_iff.1 taken
      obtain ⟨rfl, free⟩ := eq_append_of_cutLast cut
      dsimp only at kept
      split at kept
      · cases kept
      · next clean =>
        obtain ⟨rfl, rfl⟩ := Prod.mk.inj (Option.some.inj kept)
        rw [not_or, not_or] at clean
        exact ⟨.bare, ⟨clean, rfl⟩, free⟩
    · rintro ⟨form, ⟨allowed, rfl⟩, last⟩
      cases form with
      | bare =>
        have clean : ¬(':' ∈ host ∨ '[' ∈ host ∨ ']' ∈ host) := by
          rw [not_or, not_or]
          exact allowed
        rw [Form.write, cutLast_append last]
        exact if_neg clean
      | bracketed => exact absurd rfl (unbracketed _)

/-- The port of a number has no colon. -/
theorem Form.endsIn_of_isInteger (form : Form) {port : List Char} {number : Int}
    (written : IsInteger port number) : form.EndsIn port := by
  cases form with
  | bare => exact written.not_mem (by decide) (by decide) (by decide)
  | bracketed => trivial

/-- Only one form writes a host and a port as a text. -/
theorem Writes.form_eq {form other : Form} {host port text : List Char}
    (first : Writes form host port text) (second : Writes other host port text) :
    other = form := by
  have lengths := congrArg List.length (first.2.symm.trans second.2)
  -- Brackets take two more characters.
  cases form <;> cases other
  · rfl
  · simp only [Form.write, List.length_cons, List.length_append] at lengths
    omega
  · simp only [Form.write, List.length_cons, List.length_append] at lengths
    omega
  · rfl

/-- A text is taken apart in one way only. -/
theorem Writes.unique {form other : Form} {host host' port port' text : List Char}
    (first : Writes form host port text) (ends : form.EndsIn port)
    (second : Writes other host' port' text) (ends' : other.EndsIn port') :
    other = form ∧ host' = host ∧ port' = port := by
  have here := split?_eq_some_iff.2 ⟨form, first, ends⟩
  rw [split?_eq_some_iff.2 ⟨other, second, ends'⟩] at here
  obtain ⟨rfl, rfl⟩ := Prod.mk.inj (Option.some.inj here)
  exact ⟨first.form_eq second, rfl, rfl⟩

/-- A number of 64 bits as a port is written. -/
def IsPort (port : List Char) (number : Int) : Prop :=
  IsInteger port number ∧ -9223372036854775808 ≤ number ∧ number ≤ 9223372036854775807

theorem hostAttributes_ne_nil (host : List Char) (port : Int) : hostAttributes host port ≠ [] := by
  unfold hostAttributes
  generalize (if host.isEmpty then loopback else host) = shown
  dsimp only
  split
  · exact List.cons_ne_nil _ _
  · exact List.cons_ne_nil _ _

/-- What a peer in the grammar comes to. -/
theorem attributes_of_writes (peer : Peer) {form : Form} {host port : List Char} {number : Int}
    (written : Writes form host port peer.address.toList) (numeric : IsPort port number) :
    peer.attributes = (hostAttributes host number, []) := by
  have taken : split? peer.address.toList = some (host, port) :=
    split?_eq_some_iff.2 ⟨form, written, form.endsIn_of_isInteger numeric.1⟩
  rw [attributes, attributes?, taken]
  dsimp only
  rw [int64?_eq_some_iff.2 numeric]

/-- A peer without attributes and what is logged about it: either it is not taken apart, or its port
is no number. -/
theorem attributes_of_empty (peer : Peer) (bare : peer.attributes.1 = []) :
    (split? peer.address.toList = none ∧
        peer.attributes.2 = [Fault.notParsable.entry peer]) ∨
      ((split? peer.address.toList).isSome = true ∧
        peer.attributes.2 = [Fault.portNotNumeric.entry peer]) := by
  unfold attributes attributes? at bare ⊢
  cases taken : split? peer.address.toList with
  | none => exact .inl ⟨rfl, rfl⟩
  | some parts =>
    rw [taken] at bare
    dsimp only at bare ⊢
    cases numeric : int64? parts.2 with
    | none => exact .inr ⟨rfl, rfl⟩
    | some number =>
      rw [numeric] at bare
      exact absurd bare (hostAttributes_ne_nil _ _)

/-- A peer has attributes exactly if its text is a host in a form, a colon and a number of 64 bits
as the port. The form, the host and the port are then the only ones, and nothing is logged. Of other
texts one entry is logged: those with a host and something else as the port are told apart from
those without. -/
theorem attributes_of_grammar (peer : Peer) :
    let text := peer.address.toList
    (peer.attributes.1 ≠ [] ↔
        ∃ form host port number, Writes form host port text ∧ IsPort port number) ∧
      (∀ form host port number, Writes form host port text → IsPort port number →
        let shown := if host = [] then "127.0.0.1" else String.ofList host
        peer.attributes =
            (if isAddress shown.toList then
              [⟨"net.sock.peer.addr", .text shown⟩, ⟨"net.sock.peer.port", .int number⟩]
            else [⟨"net.peer.name", .text shown⟩, ⟨"net.peer.port", .int number⟩], []) ∧
          ∀ form' host' port' number', Writes form' host' port' text → IsPort port' number' →
            form' = form ∧ host' = host ∧ port' = port ∧ number' = number) ∧
      (peer.attributes.1 = [] → ∃ message,
        peer.attributes.2 = [⟨.debug, message, [("peer", .string peer.address)]⟩] ∧
          (message = "peer port not numeric" ↔
            ∃ form host port, Writes form host port text ∧ form.EndsIn port) ∧
          (message = "peer address not parsable" ↔
            ¬∃ form host port, Writes form host port text ∧ form.EndsIn port)) := by
  intro text
  refine ⟨⟨fun filled => ?_, ?_⟩, fun form host port number written numeric => ⟨?_, ?_⟩,
    fun bare => ?_⟩
  · -- Neither step of the reader has failed, or there would be no attributes.
    unfold attributes attributes? at filled
    cases taken : split? text with
    | none =>
      rw [taken] at filled
      exact absurd rfl filled
    | some parts =>
      rw [taken] at filled
      dsimp only at filled
      cases numeric : int64? parts.2 with
      | none =>
        rw [numeric] at filled
        exact absurd rfl filled
      | some number =>
        obtain ⟨form, written, -⟩ := split?_eq_some_iff.1 taken
        exact ⟨form, parts.1, parts.2, number, written, int64?_eq_some_iff.1 numeric⟩
  · rintro ⟨form, host, port, number, written, numeric⟩
    rw [peer.attributes_of_writes written numeric]
    exact hostAttributes_ne_nil host number
  · rw [peer.attributes_of_writes written numeric, hostAttributes]
    cases host with
    | nil => rfl
    | cons first others =>
      simp only [List.isEmpty_cons, Bool.false_eq_true, if_false, reduceCtorEq,
        String.toList_ofList]
      rfl
  · intro form' host' port' number' written' numeric'
    obtain ⟨rfl, rfl, rfl⟩ := written.unique (form.endsIn_of_isInteger numeric.1) written'
      (form'.endsIn_of_isInteger numeric'.1)
    have same := (int64?_eq_some_iff.2 numeric).symm.trans (int64?_eq_some_iff.2 numeric')
    exact ⟨rfl, rfl, rfl, (Option.some.inj same).symm⟩
  · rcases peer.attributes_of_empty bare with ⟨failed, logged⟩ | ⟨taken, logged⟩
    · have apart : ¬∃ form host port, Writes form host port text ∧ form.EndsIn port := by
        rintro ⟨form, host, port, written⟩
        rw [split?_eq_some_iff.2 ⟨form, written⟩] at failed
        cases failed
      exact ⟨_, logged, iff_of_false (by decide) apart, iff_of_true rfl apart⟩
    · obtain ⟨⟨host, port⟩, taken⟩ := Option.isSome_iff_exists.1 taken
      obtain ⟨form, written⟩ := split?_eq_some_iff.1 taken
      have apart : ∃ form host port, Writes form host port text ∧ form.EndsIn port :=
        ⟨form, host, port, written⟩
      exact ⟨_, logged, iff_of_true rfl apart, iff_of_false (by decide) fun none => none apart⟩

/-- A peer in brackets, with a sign in front of its port. -/
theorem attributes_of_signed_port :
    (Peer.mk "[::1]:+443").attributes =
      ([⟨"net.sock.peer.addr", .text "::1"⟩, ⟨"net.sock.peer.port", .int 443⟩], []) := by
  have written : Writes .bracketed [':', ':', '1'] ['+', '4', '4', '3'] "[::1]:+443".toList :=
    ⟨show ']' ∉ [':', ':', '1'] by decide, rfl⟩
  have digits : ∀ c ∈ ['4', '4', '3'], c.isDigit = true := List.all_eq_true.1 rfl
  have numeric : IsPort ['+', '4', '4', '3'] 443 :=
    ⟨.plus (List.cons_ne_nil _ _) digits, by decide, by decide⟩
  have address : isAddress "::1".toList = true := by decide
  obtain ⟨attributes, -⟩ :=
    (attributes_of_grammar ⟨"[::1]:+443"⟩).2.1 _ _ _ _ written numeric
  rw [attributes, if_neg (List.cons_ne_nil _ _)]
  exact congrArg (·, []) (if_pos address)

/-- A bare host has no colon of its own, so the text is not taken apart. -/
example : (Peer.mk "::1:80").attributes =
    ([], [⟨.debug, "peer address not parsable", [("peer", .string "::1:80")]⟩]) := by
  decide

end Peer

end RpcTelemetry
