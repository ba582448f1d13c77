import RpcTelemetry.Payload.Json

/-!
# Reading JSON back

A reader of JSON documents that knows nothing of how they are laid out: blank space may stand
between any two tokens, a character of a string may be written as itself or as an escape, and the
parts of a document that are still open are kept on a stack. It keeps the order and repetition of
members and the spelling of numbers, so it gives back a tree and not what the tree stands for.

Results:
1. `stringBody?_escaped`: a written string is read as the string.
2. `run?_render`: so is a written document, whatever comes before and after it, if its numbers are
   spelled as numbers.
3. `read?_pretty`: in particular a whole text.
-/

namespace RpcTelemetry.Payload.Json

/-! ## Tokens -/

/-- Blank space between tokens. -/
def isBlank (c : Char) : Bool := c == ' ' || c == '\t' || c == '\n' || c == '\r'

/-- A token: punctuation, or a document that is no array or object. -/
inductive Token where
  | openArray
  | closeArray
  | openObject
  | closeObject
  | comma
  | colon
  | scalar (document : Json)

/-- The token that a character is by itself. -/
def mark? : Char → Option Token
  | '[' => some .openArray
  | ']' => some .closeArray
  | '\x7b' => some .openObject
  | '\x7d' => some .closeObject
  | ',' => some .comma
  | ':' => some .colon
  | _ => none

/-- Whether a character ends a word in front of it. -/
def isDelimiter (c : Char) : Bool := isBlank c || (mark? c).isSome || c == '"'

/-- What a letter after a backslash stands for. -/
def plainEscape? : Char → Option Char
  | '"' => some '"'
  | '\\' => some '\\'
  | '/' => some '/'
  | 'b' => some '\x08'
  | 'f' => some '\x0c'
  | 'n' => some '\n'
  | 'r' => some '\r'
  | 't' => some '\t'
  | _ => none

/-- The number in four hexadecimal digits, and what follows them. -/
def unit? (text : List Char) : Option (Nat × List Char) :=
  if text.length < 4 then none
  else (Text.natural? 16 (text.take 4)).map fun unit => (unit, text.drop 4)

/-- The character of one numbered escape or of two that are halves of a pair, read after the first
letter; half a pair is none. -/
def numberedEscape? (text : List Char) : Option (Char × List Char) :=
  match unit? text with
  | none => none
  | some (unit, rest) =>
    if unit < 0xd800 ∨ 0xe000 ≤ unit then some (Char.ofNat unit, rest)
    else match rest with
      | '\\' :: 'u' :: second =>
        match unit? second with
        | none => none
        | some (low, rest) =>
          if unit < 0xdc00 ∧ 0xdc00 ≤ low ∧ low < 0xe000 then
            some (Char.ofNat (0x10000 + (unit - 0xd800) * 0x400 + (low - 0xdc00)), rest)
          else none
      | _ => none

/-- One character of a string, and what follows it. Quotes, backslashes and control characters do
not stand for themselves. -/
def character? : List Char → Option (Char × List Char)
  | [] => none
  | '\\' :: 'u' :: rest => numberedEscape? rest
  | '\\' :: letter :: rest => (plainEscape? letter).map fun c => (c, rest)
  | c :: rest => if c = '"' ∨ c = '\\' ∨ c.toNat < 0x20 then none else some (c, rest)

theorem length_unit? {text rest : List Char} {unit : Nat} (read : unit? text = some (unit, rest)) :
    rest.length < text.length := by
  unfold unit? at read
  split at read
  · cases read
  · obtain ⟨_, _, same⟩ := Option.map_eq_some_iff.1 read
    rw [← (Prod.mk.inj same).2, List.length_drop]
    omega

theorem length_numberedEscape? {text rest : List Char} {c : Char}
    (read : numberedEscape? text = some (c, rest)) : rest.length < text.length := by
  unfold numberedEscape? at read
  split at read
  · cases read
  · grind [→ length_unit?]

theorem length_character? {text rest : List Char} {c : Char}
    (read : character? text = some (c, rest)) : rest.length < text.length := by
  unfold character? at read
  split at read
  · cases read
  · exact Nat.lt_add_right 2 (length_numberedEscape? read)
  · next later _ =>
    obtain ⟨_, _, same⟩ := Option.map_eq_some_iff.1 read
    obtain rfl : later = rest := (Prod.mk.inj same).2
    exact Nat.lt_add_right 1 (Nat.lt_succ_self _)
  · grind

/-- The characters of a string up to its closing quote, and what follows that. -/
def stringBody? (text : List Char) : Option (List Char × List Char) :=
  match text with
  | '"' :: rest => some ([], rest)
  | text =>
    match _ : character? text with
    | none => none
    | some (c, rest) => (stringBody? rest).map fun (value, later) => (c :: value, later)
termination_by text.length
decreasing_by exact length_character? ‹_›

theorem length_stringBody? {text value rest : List Char}
    (read : stringBody? text = some (value, rest)) : rest.length < text.length := by
  fun_induction stringBody? text generalizing value with
  | case1 later => grind
  | case2 text _ unread => cases read
  | case3 text _ c later first ih =>
    obtain ⟨⟨value, end'⟩, tail, same⟩ := Option.map_eq_some_iff.1 read
    obtain rfl : end' = rest := (Prod.mk.inj same).2
    exact Nat.lt_trans (ih tail) (length_character? first)

/-! ## Words -/

/-- Whether digits are the whole part of a number: a zero, or no zero in front. -/
def isWhole : List Char → Bool
  | [] => false
  | ['0'] => true
  | first :: _ => first != '0'

/-- Whether a text is empty or the exponent of a number. -/
def isExponent : List Char → Bool
  | [] => true
  | e :: text =>
    let digits := match text with
      | '+' :: digits => digits
      | '-' :: digits => digits
      | digits => digits
    (e == 'e' || e == 'E') && !digits.isEmpty && digits.all Char.isDigit

/-- Whether a text is what may follow the whole part of a number: a fraction, an exponent, both or
nothing. -/
def isTail : List Char → Bool
  | '.' :: text =>
    !(text.takeWhile Char.isDigit).isEmpty && isExponent (text.dropWhile Char.isDigit)
  | text => isExponent text

/-- Whether a text is a number without a sign. -/
def isUnsigned (text : List Char) : Bool :=
  isWhole (text.takeWhile Char.isDigit) && isTail (text.dropWhile Char.isDigit)

/-- Whether a text is a number. -/
def isNumber : List Char → Bool
  | '-' :: text => isUnsigned text
  | text => isUnsigned text

/-- The document that a word is. -/
def word? (word : List Char) : Option Json :=
  if word = ['n', 'u', 'l', 'l'] then some .null
  else if word = ['t', 'r', 'u', 'e'] then some (.bool true)
  else if word = ['f', 'a', 'l', 's', 'e'] then some (.bool false)
  else if isNumber word then some (.number word)
  else none

/-- The token that starts with a character, and what follows it. -/
def token? (c : Char) (rest : List Char) : Option (Token × List Char) :=
  match mark? c with
  | some mark => some (mark, rest)
  | none =>
    if c = '"' then
      (stringBody? rest).map fun (value, later) => (.scalar (.string value), later)
    else
      (word? (c :: rest.takeWhile (!isDelimiter ·))).map fun document =>
        (.scalar document, rest.dropWhile (!isDelimiter ·))

theorem length_token? {c : Char} {rest later : List Char} {token : Token}
    (read : token? c rest = some (token, later)) : later.length ≤ rest.length := by
  unfold token? at read
  split at read
  · grind
  · split at read
    · obtain ⟨⟨_, _⟩, body, same⟩ := Option.map_eq_some_iff.1 read
      rw [← (Prod.mk.inj same).2]
      exact Nat.le_of_lt (length_stringBody? body)
    · obtain ⟨_, _, same⟩ := Option.map_eq_some_iff.1 read
      rw [← (Prod.mk.inj same).2]
      exact (List.dropWhile_sublist _).length_le

/-! ## Documents -/

/-- An array or object that has been opened and not closed, with its parts so far. The last member
of an object has a key already. -/
inductive Frame where
  | array (items : List Json)
  | object (members : List (List Char × Json)) (key : List Char)

/-- What may come next, inside of what is open, innermost first. -/
inductive State where
  | value (outer : List Frame)
  | firstItem (outer : List Frame)
  | firstKey (outer : List Frame)
  | key (members : List (List Char × Json)) (outer : List Frame)
  | colon (members : List (List Char × Json)) (key : List Char) (outer : List Frame)
  | finished (document : Json) (outer : List Frame)

namespace State

/-- The first token of a value. -/
def begin? (outer : List Frame) : Token → Option State
  | .openArray => some (firstItem outer)
  | .openObject => some (firstKey outer)
  | .scalar document => some (finished document outer)
  | _ => none

/-- One token; `none` if it may not come next. -/
def step? : State → Token → Option State
  | value outer, token => begin? outer token
  | firstItem outer, .closeArray => some (finished (.array []) outer)
  | firstItem outer, token => begin? (.array [] :: outer) token
  | firstKey outer, .closeObject => some (finished (.object []) outer)
  | firstKey outer, .scalar (.string name) => some (colon [] name outer)
  | key members outer, .scalar (.string name) => some (colon members name outer)
  | colon members name outer, .colon => some (value (.object members name :: outer))
  | finished item (.array items :: outer), .comma =>
    some (value (.array (items ++ [item]) :: outer))
  | finished item (.array items :: outer), .closeArray =>
    some (finished (.array (items ++ [item])) outer)
  | finished content (.object members name :: outer), .comma =>
    some (key (members ++ [(name, content)]) outer)
  | finished content (.object members name :: outer), .closeObject =>
    some (finished (.object (members ++ [(name, content)])) outer)
  | _, _ => none

/-- All tokens of a text. -/
def run? (s : State) (text : List Char) : Option State :=
  match text with
  | [] => some s
  | c :: rest =>
    if isBlank c then s.run? rest
    else match _ : token? c rest with
      | none => none
      | some (token, later) =>
        match s.step? token with
        | none => none
        | some next => next.run? later
termination_by text.length
decreasing_by
  · exact Nat.lt_succ_self _
  · exact Nat.lt_succ_of_le (length_token? ‹_›)

/-- The document of a reader that may stop. -/
def result? : State → Option Json
  | finished document [] => some document
  | _ => none

end State

/-- The document that a text is. -/
def read? (text : String) : Option Json := ((State.value []).run? text.toList).bind State.result?

/-! ## Reading strings -/

theorem unit?_hexPadded {value : Nat} (fits : value < 0x10000) (rest : List Char) :
    unit? (Text.hexPadded 4 value ++ rest) = some (value, rest) := by
  have four := Text.length_hexPadded 4 value
  have enough : ¬ (Text.hexPadded 4 value ++ rest).length < 4 := by
    rw [List.length_append, four]
    omega
  have read := Text.natural?_hexPadded (show 0 < 4 by decide) value
  rw [Nat.mod_eq_of_lt (show value < Nat.pow 16 4 from fits)] at read
  rw [unit?, if_neg enough, List.take_left' four, List.drop_left' four, read]
  rfl

/-- A written character is read as the character. -/
theorem character?_escaped (c : Char) (rest : List Char) :
    character? (escaped c ++ rest) = some (c, rest) := by
  unfold escaped
  split
  · next quote => subst quote; rfl
  split
  · next backslash => subst backslash; rfl
  split
  · next backspace => subst backspace; rfl
  split
  · next formFeed => subst formFeed; rfl
  split
  · next lineFeed => subst lineFeed; rfl
  split
  · next carriageReturn => subst carriageReturn; rfl
  split
  · next tab => subst tab; rfl
  split
  · next control =>
    have unit := unit?_hexPadded (show c.toNat < 0x10000 by omega) rest
    show numberedEscape? (Text.hexPadded 4 c.toNat ++ rest) = some (c, rest)
    rw [numberedEscape?, unit]
    dsimp only
    rw [if_pos (.inl (by omega)), Char.ofNat_toNat]
  · next noQuote noBackslash _ _ _ _ _ noControl =>
    show character? (c :: rest) = some (c, rest)
    unfold character?
    split <;> simp_all

theorem stringBody?_of_character? {text rest : List Char} {c : Char}
    (read : character? text = some (c, rest)) :
    stringBody? text = (stringBody? rest).map fun (value, later) => (c :: value, later) := by
  rw [stringBody?.eq_def]
  split
  · cases read
  · split
    · next unread => cases read.symm.trans unread
    · next read' =>
      obtain ⟨rfl, rfl⟩ := Prod.mk.inj (Option.some.inj (read'.symm.trans read))
      rfl

/-- A written string is read as the string. -/
theorem stringBody?_escaped (value rest : List Char) :
    stringBody? (value.flatMap escaped ++ '"' :: rest) = some (value, rest) := by
  induction value with
  | nil => rw [List.flatMap_nil, List.nil_append, stringBody?]
  | cons c value ih =>
    rw [List.flatMap_cons, List.append_assoc,
      stringBody?_of_character? (character?_escaped c _), ih]
    rfl

/-! ## Reading words -/

section

variable {p : Char → Bool} {run rest : List Char} (inside : run.all p = true)
  (ends : ∀ c ∈ rest.head?, p c = false)

include inside ends

/-- A run of characters ends where another one stands. -/
theorem takeWhile_run : (run ++ rest).takeWhile p = run := by
  rw [List.takeWhile_append_of_pos (List.all_eq_true.1 inside)]
  cases rest with
  | nil => exact List.append_nil run
  | cons c rest => rw [List.takeWhile_cons_of_neg (by simp [ends c rfl]), List.append_nil]

theorem dropWhile_run : (run ++ rest).dropWhile p = rest := by
  rw [List.dropWhile_append_of_pos (List.all_eq_true.1 inside)]
  cases rest with
  | nil => rfl
  | cons c rest => rw [List.dropWhile_cons_of_neg (by simp [ends c rfl])]

end

theorem not_isBlank_of_mark? {c : Char} {mark : Token} (marks : mark? c = some mark) :
    isBlank c = false := by
  unfold mark? at marks
  split at marks <;> first | rfl | cases marks

theorem not_isDigit_of_isDelimiter {c : Char} (delimiter : isDelimiter c = true) :
    c.isDigit = false := by
  simp only [isDelimiter, isBlank, Bool.or_eq_true, beq_iff_eq] at delimiter
  rcases delimiter with (blank | marks) | rfl
  · rcases blank with ((rfl | rfl) | rfl) | rfl <;> rfl
  · unfold mark? at marks
    split at marks <;> first | rfl | cases marks
  · rfl

theorem not_isDelimiter_of_isDigit {c : Char} (digit : c.isDigit = true) :
    isDelimiter c = false := by
  refine Bool.eq_false_iff.2 fun delimiter => ?_
  rw [not_isDigit_of_isDelimiter delimiter] at digit
  cases digit

/-- Whether no character of a text is a delimiter. -/
def IsPlain (text : List Char) : Prop := text.all (!isDelimiter ·) = true

theorem IsPlain.cons {c : Char} {text : List Char} (first : isDelimiter c = false)
    (plain : IsPlain text) : IsPlain (c :: text) := by
  rw [IsPlain, List.all_cons, first]
  exact plain

theorem isPlain_of_digits {text : List Char} (digits : text.all Char.isDigit = true) :
    IsPlain text := by
  refine List.all_eq_true.2 fun c present => ?_
  rw [not_isDelimiter_of_isDigit (List.all_eq_true.1 digits c present)]
  rfl

theorem isPlain_of_isExponent {text : List Char} (exponent : isExponent text = true) :
    IsPlain text := by
  unfold isExponent at exponent
  split at exponent
  · rfl
  · next e text =>
    simp only [Bool.and_eq_true, Bool.or_eq_true, beq_iff_eq] at exponent
    refine .cons (by rcases exponent.1.1 with rfl | rfl <;> rfl) ?_
    have digits := exponent.2
    split at digits
    · exact .cons rfl (isPlain_of_digits digits)
    · exact .cons rfl (isPlain_of_digits digits)
    · exact isPlain_of_digits digits

/-- A run of digits is plain if what follows it is. -/
theorem isPlain_of_dropWhile {text : List Char} (later : IsPlain (text.dropWhile Char.isDigit)) :
    IsPlain text := by
  have run : IsPlain (text.takeWhile Char.isDigit) := isPlain_of_digits List.all_takeWhile
  rw [← List.takeWhile_append_dropWhile (p := Char.isDigit) (l := text), IsPlain, List.all_append,
    run, later]
  rfl

theorem isPlain_of_isTail {text : List Char} (tail : isTail text = true) : IsPlain text := by
  unfold isTail at tail
  split at tail
  · rw [Bool.and_eq_true] at tail
    exact .cons rfl (isPlain_of_dropWhile (isPlain_of_isExponent tail.2))
  · exact isPlain_of_isExponent tail

theorem isPlain_of_isUnsigned {text : List Char} (unsigned : isUnsigned text = true) :
    IsPlain text :=
  isPlain_of_dropWhile (isPlain_of_isTail (Bool.and_eq_true_iff.1 unsigned).2)

theorem isPlain_of_isNumber {text : List Char} (number : isNumber text = true) : IsPlain text := by
  unfold isNumber at number
  split at number
  · exact .cons rfl (isPlain_of_isUnsigned number)
  · exact isPlain_of_isUnsigned number

theorem isPlain_of_word? {word : List Char} {document : Json} (read : word? word = some document) :
    IsPlain word := by
  unfold word? at read
  split at read
  · next same => subst same; rfl
  split at read
  · next same => subst same; rfl
  split at read
  · next same => subst same; rfl
  split at read
  · next number => exact isPlain_of_isNumber number
  · cases read

theorem word?_of_isNumber {word : List Char} (number : isNumber word = true) :
    word? word = some (.number word) := by
  have other {letters : List Char} (noNumber : isNumber letters = false) : word ≠ letters := by
    rintro rfl
    rw [number] at noNumber
    cases noNumber
  rw [word?, if_neg (other (by decide)), if_neg (other (by decide)), if_neg (other (by decide)),
    if_pos number]

namespace State

/-! ## Reading tokens -/

variable {s : State} {c : Char} {rest : List Char}

@[simp] theorem run?_nil : s.run? [] = some s := by
  rw [run?]

theorem run?_blank (blank : isBlank c = true) : s.run? (c :: rest) = s.run? rest := by
  rw [run?, if_pos blank]

theorem run?_token {later : List Char} {token : Token} (visible : isBlank c = false)
    (read : token? c rest = some (token, later)) :
    s.run? (c :: rest) = (s.step? token).bind fun next => next.run? later := by
  rw [run?, if_neg (by rw [visible]; decide)]
  split
  · next unread => cases read.symm.trans unread
  · next read' =>
    obtain ⟨rfl, rfl⟩ := Prod.mk.inj (Option.some.inj (read'.symm.trans read))
    cases s.step? _ <;> rfl

/-- The start of a line is skipped. -/
theorem run?_newline (level : Nat) : s.run? (newline level ++ rest) = s.run? rest := by
  have spaces (count : Nat) : s.run? (List.replicate count ' ' ++ rest) = s.run? rest := by
    induction count with
    | zero => rfl
    | succ count ih => exact (run?_blank rfl).trans ih
  exact (run?_blank rfl).trans (spaces _)

theorem run?_mark {mark : Token} {next : State} (marks : mark? c = some mark)
    (steps : s.step? mark = some next) : s.run? (c :: rest) = next.run? rest := by
  have read : token? c rest = some (mark, rest) := by rw [token?, marks]
  rw [run?_token (not_isBlank_of_mark? marks) read, steps]
  rfl

/-- A written string is one token. -/
theorem run?_quoted {value : List Char} {next : State}
    (steps : s.step? (.scalar (.string value)) = some next) :
    s.run? (quoted value ++ rest) = next.run? rest := by
  have shape : quoted value ++ rest = '"' :: (value.flatMap escaped ++ '"' :: rest) := by
    simp [quoted]
  have read : token? '"' (value.flatMap escaped ++ '"' :: rest) =
      some (.scalar (.string value), rest) := by
    show (stringBody? (value.flatMap escaped ++ '"' :: rest)).map _ = _
    rw [stringBody?_escaped]
    rfl
  rw [shape, run?_token rfl read, steps]
  rfl

/-- A text in front of which a word ends. -/
def EndsWord (rest : List Char) : Prop := ∀ c ∈ rest.head?, isDelimiter c = true

/-- So is a word. -/
theorem run?_word {word : List Char} {document : Json} {next : State}
    (read : word? word = some document) (steps : s.step? (.scalar document) = some next)
    (ends : EndsWord rest) : s.run? (word ++ rest) = next.run? rest := by
  have plain := isPlain_of_word? read
  cases word with
  | nil => cases read
  | cons c word =>
    rw [IsPlain, List.all_cons, Bool.and_eq_true] at plain
    obtain ⟨first, more⟩ := plain
    simp only [isDelimiter, Bool.not_eq_true', Bool.or_eq_false_iff] at first
    have unmarked : mark? c = none := by simpa using first.1.2
    have unquoted : c ≠ '"' := by simpa using first.2
    have boundary : ∀ d ∈ rest.head?, (!isDelimiter d) = false := fun d next => by
      rw [ends d next]
      rfl
    have token : token? c (word ++ rest) = some (.scalar document, rest) := by
      rw [token?, unmarked]
      dsimp only
      rw [if_neg unquoted, takeWhile_run more boundary, dropWhile_run more boundary, read]
      rfl
    rw [List.cons_append, run?_token first.1.1 token, steps]
    rfl

end State

/-! ## Reading documents -/

mutual

/-- Whether every number of a document is spelled as a number. -/
def WellSpelled : Json → Prop
  | .number spelling => isNumber spelling = true
  | .array items => WellSpelledItems items
  | .object members => WellSpelledMembers members
  | .null | .bool _ | .string _ => True

/-- Whether every number of every item is. -/
def WellSpelledItems : List Json → Prop
  | [] => True
  | item :: rest => item.WellSpelled ∧ WellSpelledItems rest

/-- Whether every number of every member is. -/
def WellSpelledMembers : List (List Char × Json) → Prop
  | [] => True
  | (_, value) :: rest => value.WellSpelled ∧ WellSpelledMembers rest

end

namespace State

/-- What may come next is a value inside of `outer`, or the end of an empty array. -/
def Awaits (s : State) (outer : List Frame) : Prop :=
  s.step? .openArray = some (firstItem outer) ∧ s.step? .openObject = some (firstKey outer) ∧
    ∀ document, s.step? (.scalar document) = some (finished document outer)

theorem awaits_value (outer : List Frame) : (value outer).Awaits outer := ⟨rfl, rfl, fun _ => rfl⟩

theorem awaits_firstItem (outer : List Frame) :
    (firstItem outer).Awaits (.array [] :: outer) := ⟨rfl, rfl, fun _ => rfl⟩

variable {rest : List Char}

theorem endsWord_newline (level : Nat) (rest : List Char) : EndsWord (newline level ++ rest) := by
  rintro _ ⟨⟩
  rfl

theorem endsWord_items (level : Nat) (items : List Json) (ends : EndsWord rest) :
    EndsWord (renderItems level items ++ rest) := by
  cases items with
  | nil => exact ends
  | cons => rintro _ ⟨⟩; rfl

theorem endsWord_members (level : Nat) (members : List (List Char × Json)) (ends : EndsWord rest) :
    EndsWord (renderMembers level members ++ rest) := by
  cases members with
  | nil => exact ends
  | cons => rintro _ ⟨⟩; rfl

/-- A name is read up to its value. -/
theorem run?_name {s : State} {members : List (List Char × Json)} {name : List Char}
    {outer : List Frame}
    (steps : s.step? (.scalar (.string name)) = some (colon members name outer)) :
    s.run? (quoted name ++ ':' :: ' ' :: rest) =
      (value (.object members name :: outer)).run? rest := by
  rw [run?_quoted steps, run?_mark rfl rfl, run?_blank rfl]

mutual

/-- A written document is read as the document, wherever it stands. -/
theorem run?_render (level : Nat) {s : State} {outer : List Frame} {rest : List Char}
    (awaits : s.Awaits outer) (ends : EndsWord rest) : ∀ document : Json, document.WellSpelled →
      s.run? (document.render level ++ rest) = (finished document outer).run? rest
  | .null, _ | .bool true, _ | .bool false, _ => run?_word rfl (awaits.2.2 _) ends
  | .number _, spelled => run?_word (word?_of_isNumber spelled) (awaits.2.2 _) ends
  | .string _, _ => run?_quoted (awaits.2.2 _)
  | .array [], _ => (run?_mark rfl awaits.1).trans (run?_mark rfl rfl)
  | .array (item :: items), spelled => by
    have ends' := endsWord_newline level (']' :: rest)
    have opened : s.run? ('[' :: (newline (level + 1) ++ (render (level + 1) item ++
        (renderItems (level + 1) items ++ (newline level ++ ']' :: rest))))) =
        (finished (.array (item :: items)) outer).run? rest := by
      rw [run?_mark rfl awaits.1, run?_newline, run?_render (level + 1) (awaits_firstItem outer)
          (endsWord_items (level + 1) items ends') item spelled.1,
        run?_renderItems level items spelled.2]
      rfl
    simpa [render] using opened
  | .object [], _ => (run?_mark rfl awaits.2.1).trans (run?_mark rfl rfl)
  | .object ((name, content) :: members), spelled => by
    have ends' := endsWord_newline level ('\x7d' :: rest)
    have opened : s.run? ('\x7b' :: (newline (level + 1) ++ (quoted name ++ ':' :: ' ' ::
        (render (level + 1) content ++
          (renderMembers (level + 1) members ++ (newline level ++ '\x7d' :: rest)))))) =
        (finished (.object ((name, content) :: members)) outer).run? rest := by
      rw [run?_mark rfl awaits.2.1, run?_newline, run?_name rfl,
        run?_render (level + 1) (awaits_value _)
          (endsWord_members (level + 1) members ends') content spelled.1,
        run?_renderMembers level members spelled.2]
      rfl
    simpa [render] using opened

/-- The items after the first one are read as such, up to the end of the array. -/
theorem run?_renderItems (level : Nat) {before : List Json} {last : Json} {outer : List Frame}
    {rest : List Char} : ∀ items : List Json, WellSpelledItems items →
      (finished last (.array before :: outer)).run?
          (renderItems (level + 1) items ++ (newline level ++ ']' :: rest)) =
        (finished (.array (before ++ last :: items)) outer).run? rest
  | [], _ => (run?_newline level).trans (run?_mark rfl rfl)
  | item :: items, spelled => by
    have ends := endsWord_newline level (']' :: rest)
    have further : (finished last (.array before :: outer)).run? (',' :: (newline (level + 1) ++
        (render (level + 1) item ++
          (renderItems (level + 1) items ++ (newline level ++ ']' :: rest))))) =
        (finished (.array (before ++ [last] ++ item :: items)) outer).run? rest := by
      rw [run?_mark rfl rfl, run?_newline, run?_render (level + 1) (awaits_value _)
          (endsWord_items (level + 1) items ends) item spelled.1,
        run?_renderItems level items spelled.2]
    simpa [renderItems] using further

/-- The members after the first one are read as such, up to the end of the object. -/
theorem run?_renderMembers (level : Nat) {before : List (List Char × Json)} {name : List Char}
    {content : Json} {outer : List Frame} {rest : List Char} :
    ∀ members : List (List Char × Json), WellSpelledMembers members →
      (finished content (.object before name :: outer)).run?
          (renderMembers (level + 1) members ++ (newline level ++ '\x7d' :: rest)) =
        (finished (.object (before ++ (name, content) :: members)) outer).run? rest
  | [], _ => (run?_newline level).trans (run?_mark rfl rfl)
  | (other, item) :: members, spelled => by
    have ends := endsWord_newline level ('\x7d' :: rest)
    have further : (finished content (.object before name :: outer)).run?
        (',' :: (newline (level + 1) ++ (quoted other ++ ':' :: ' ' ::
          (render (level + 1) item ++
            (renderMembers (level + 1) members ++ (newline level ++ '\x7d' :: rest)))))) =
        (finished (.object (before ++ [(name, content)] ++ (other, item) :: members)) outer).run?
          rest := by
      rw [run?_mark rfl rfl, run?_newline, run?_name rfl,
        run?_render (level + 1) (awaits_value _)
          (endsWord_members (level + 1) members ends) item spelled.1,
        run?_renderMembers level members spelled.2]
    simpa [renderMembers] using further

end

end State

/-- A written document whose numbers are spelled as numbers reads back as the document. -/
theorem read?_pretty {document : Json} (spelled : document.WellSpelled) :
    read? document.pretty = some document := by
  have atEnd : State.EndsWord [] := fun _ first => by cases first
  have whole := State.run?_render 0 (State.awaits_value []) atEnd document spelled
  rw [List.append_nil, State.run?_nil] at whole
  rw [read?, pretty, String.toList_ofList, whole]
  rfl

/-- A text may be laid out in another way. -/
example :
    (read? "\x7b\"a\":[-0.50e+1,\"\\ud83d\\ude00\"],\"a\":\x7b\x7d\x7d").map pretty =
      some "\x7b\n  \"a\": [\n    -0.50e+1,\n    \"😀\"\n  ],\n  \"a\": \x7b\x7d\n\x7d" := by
  decide +kernel

/-- Leading zeros, half a pair, a control character and a trailing comma are refused. -/
example : ∀ text ∈ ["01", "\"\\ud83d\"", "\"\n\"", "[1,]", "1 2", ""], (read? text).isNone := by
  decide +kernel

end RpcTelemetry.Payload.Json
