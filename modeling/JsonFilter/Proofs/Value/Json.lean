import JsonFilter.Proofs.Text.Characters
import Mathlib.Data.List.Basic

/-!
# Reading JSON

JSON text is read by its standard grammar. The reader keeps the order of members, members of one
name and the text of numbers. The main statements tell how a string, a number and a bracketed list
of elements are read in front of other text.
-/

namespace JsonFilter

/-- A JSON value; a number is its text. -/
inductive Json
  | null
  | bool (b : Bool)
  | number (text : String)
  | string (s : String)
  | array (items : List Json)
  | object (members : List (String × Json))

namespace Json

/-! ### Strings -/

/-- The value of a hexadecimal digit. -/
def hexDigit? (c : Char) : Option Nat :=
  if c.isDigit then some (c.toNat - '0'.toNat)
  else if 'a' ≤ c ∧ c ≤ 'f' then some (c.toNat - 'a'.toNat + 10)
  else if 'A' ≤ c ∧ c ≤ 'F' then some (c.toNat - 'A'.toNat + 10)
  else none

/-- Four hexadecimal digits. -/
def codeUnit? : List Char → Option (Nat × List Char)
  | a :: b :: c :: d :: r => do
    let a ← hexDigit? a
    let b ← hexDigit? b
    let c ← hexDigit? c
    let d ← hexDigit? d
    return (((a * 16 + b) * 16 + c) * 16 + d, r)
  | _                     => none

/-- What stands behind a backslash: a mark, or a code unit or two that stand for a character. -/
def escape? : List Char → Option (Char × List Char)
  | '"' :: r  => some ('"', r)
  | '\\' :: r => some ('\\', r)
  | '/' :: r  => some ('/', r)
  | 'b' :: r  => some ('\x08', r)
  | 'f' :: r  => some ('\x0c', r)
  | 'n' :: r  => some ('\n', r)
  | 'r' :: r  => some ('\r', r)
  | 't' :: r  => some ('\t', r)
  | 'u' :: r  => do
    let (high, r) ← codeUnit? r
    if high < 0xD800 ∨ 0xDFFF < high then return (Char.ofNat high, r)
    else match r with
      | '\\' :: 'u' :: r => do
        let (low, r) ← codeUnit? r
        if high < 0xDC00 ∧ 0xDC00 ≤ low ∧ low ≤ 0xDFFF then
          return (Char.ofNat (0x10000 + (high - 0xD800) * 0x400 + (low - 0xDC00)), r)
        else none
      | _                => none
  | _         => none

/-- The text of a string behind its opening mark, and what follows its closing mark. An escape is
always shorter than the text that it stands in. -/
def stringTail? : List Char → Option (List Char × List Char)
  | []     => none
  | c :: r =>
    if c = '"' then some ([], r)
    else if c = '\\' then
      match escape? r with
      | none         => none
      | some (e, r') =>
        if r'.length < r.length then (stringTail? r').map (Prod.map (e :: ·) id) else none
    else if c.toNat < 0x20 then none
    else (stringTail? r).map (Prod.map (c :: ·) id)
termination_by cs => cs.length

/-! ### Numbers -/

/-- The digits in front of other text. -/
def digits (cs : List Char) : List Char × List Char :=
  (cs.takeWhile Char.isDigit, cs.dropWhile Char.isDigit)

/-- The whole part of a number, which begins with no needless zero. -/
def whole? : List Char → Option (List Char × List Char)
  | []     => none
  | c :: r =>
    if c = '0' then some (['0'], r)
    else if c.isDigit then some (Prod.map (c :: ·) id (digits r))
    else none

/-- The fraction of a number; nothing if no digit follows the point. -/
def fraction : List Char → List Char × List Char
  | '.' :: r => if (digits r).1 = [] then ([], '.' :: r) else Prod.map ('.' :: ·) id (digits r)
  | r        => ([], r)

/-- The sign in front of a number or an exponent, if it is one of the given marks. -/
def sign (marks : List Char) : List Char → List Char × List Char
  | []     => ([], [])
  | c :: r => if c ∈ marks then ([c], r) else ([], c :: r)

/-- The exponent of a number; nothing if it has no digits. -/
def exponent : List Char → List Char × List Char
  | []     => ([], [])
  | c :: r =>
    let (sign, power) := sign ['+', '-'] r
    if (c = 'e' ∨ c = 'E') ∧ (digits power).1 ≠ [] then
      Prod.map (c :: sign ++ ·) id (digits power)
    else ([], c :: r)

/-- The longest number in front of other text. -/
def number? (cs : List Char) : Option (List Char × List Char) := do
  let (sign, r) := sign ['-'] cs
  let (whole, r) ← whole? r
  let (fraction, r) := fraction r
  let (exponent, r) := exponent r
  return (sign ++ whole ++ fraction ++ exponent, r)

/-! ### Values -/

/-- Whether a character is a blank between tokens. -/
def isBlank (c : Char) : Bool :=
  c ∈ [' ', '\t', '\n', '\r']

/-- Leaves out the blanks in front of a text. -/
def skip (cs : List Char) : List Char :=
  cs.dropWhile isBlank

/-- The elements behind an opening mark, where at least one is expected. The rest is always shorter
than the text before it. -/
def elements? {α : Type} (element? : List Char → Option (α × List Char)) (close : Char)
    (cs : List Char) : Option (List α × List Char) :=
  match element? cs with
  | none        => none
  | some (x, r) =>
    match skip r with
    | []      => none
    | c :: r' =>
      if c = close then some ([x], r')
      else if c = ',' ∧ r'.length < cs.length then
        (elements? element? close r').map (Prod.map (x :: ·) id)
      else none
termination_by cs.length

/-- The elements behind an opening mark, if there are any. -/
def sequence? {α : Type} (element? : List Char → Option (α × List Char)) (close : Char)
    (cs : List Char) : Option (List α × List Char) :=
  match skip cs with
  | []     => none
  | c :: r => if c = close then some ([], r) else elements? element? close (c :: r)

/-- A member of an object: its name, a colon and its value. -/
def member? (value? : List Char → Option (Json × List Char)) (cs : List Char) :
    Option ((String × Json) × List Char) :=
  match skip cs with
  | '"' :: r => do
    let (name, r) ← stringTail? r
    match skip r with
    | ':' :: r => (value? r).map (Prod.map (String.ofList name, ·) id)
    | _        => none
  | _        => none

/-- The names of the values that are written as words. -/
def words : List (List Char × Json) :=
  [(['n', 'u', 'l', 'l'], .null), (['t', 'r', 'u', 'e'], .bool true),
    (['f', 'a', 'l', 's', 'e'], .bool false)]

/-- A value with arrays and objects up to a depth, and what follows it. -/
def value? (depth : Nat) (cs : List Char) : Option (Json × List Char) :=
  match skip cs with
  | []     => none
  | c :: r =>
    if c = '"' then (stringTail? r).map (Prod.map (fun s => .string (String.ofList s)) id)
    else if c = '[' then
      match depth with
      | 0         => none
      | depth + 1 => (sequence? (value? depth) ']' r).map (Prod.map .array id)
    else if c = '\x7b' then
      match depth with
      | 0         => none
      | depth + 1 => (sequence? (member? (value? depth)) '\x7d' r).map (Prod.map .object id)
    else if c = '-' ∨ c.isDigit then
      (number? (c :: r)).map (Prod.map (fun t => .number (String.ofList t)) id)
    else words.findSome? fun (word, j) => (word.isPrefixOf? (c :: r)).map (j, ·)

/-- The value of a JSON text, which must be all of the text. No value is nested deeper than its text
is long. -/
def read? (s : String) : Option Json :=
  match value? s.length s.toList with
  | some (j, r) => if skip r = [] then some j else none
  | none        => none

/-- Blanks, escapes, two members of one name and the text of numbers. -/
example : read? " [1.50e3, \"\\ud83d\\ude00\\n\", \x7b\"a\":[], \"a\" : -0\x7d]\n" =
    some (.array [.number "1.50e3", .string "😀\n",
      .object [("a", .array []), ("a", .number "-0")]]) := by
  cbv

/-! ### The grammar of numbers -/

/-- A text that consists of digits. -/
def IsDigits (t : List Char) : Prop :=
  t ≠ [] ∧ ∀ c ∈ t, c.isDigit

/-- Digits without a needless zero in front. -/
def IsWhole (t : List Char) : Prop :=
  IsDigits t ∧ (t.head? = some '0' → t = ['0'])

/-- Nothing, or a point and digits. -/
def IsFraction (t : List Char) : Prop :=
  t = [] ∨ ∃ ds, IsDigits ds ∧ t = '.' :: ds

/-- Nothing, or one of the given marks. -/
def IsSign (marks t : List Char) : Prop :=
  t = [] ∨ ∃ c ∈ marks, t = [c]

/-- Nothing, or an exponent with or without a sign. -/
def IsExponent (t : List Char) : Prop :=
  t = [] ∨ ∃ sign ds, IsSign ['+', '-'] sign ∧ IsDigits ds ∧ t = 'e' :: (sign ++ ds)

/-- The texts of numbers. -/
def IsNumber (t : List Char) : Prop :=
  ∃ sign whole fraction exponent, IsSign ['-'] sign ∧ IsWhole whole ∧ IsFraction fraction ∧
    IsExponent exponent ∧ t = sign ++ (whole ++ (fraction ++ exponent))

/-- A text that does not continue a number in front of it. -/
def Ends (t : List Char) : Prop :=
  ∀ c ∈ t.head?, c.isDigit = false ∧ c ∉ ['.', 'e', 'E']

variable {t rest : List Char}

lemma digits_append (ht : ∀ c ∈ t, c.isDigit) (hrest : ∀ c ∈ rest.head?, c.isDigit = false) :
    digits (t ++ rest) = (t, rest) := by
  have hstop : rest.takeWhile Char.isDigit = [] ∧ rest.dropWhile Char.isDigit = rest := by
    cases rest with
    | nil => simp
    | cons c rest => simp [hrest c rfl]
  rw [digits, List.takeWhile_append_of_pos ht, List.dropWhile_append_of_pos ht, hstop.1, hstop.2,
    List.append_nil]

lemma whole?_append (ht : IsWhole t) (hrest : ∀ c ∈ rest.head?, c.isDigit = false) :
    whole? (t ++ rest) = some (t, rest) := by
  obtain ⟨⟨hne, hdigits⟩, hzero⟩ := ht
  obtain ⟨c, r, rfl⟩ := List.exists_cons_of_ne_nil hne
  rw [List.forall_mem_cons] at hdigits
  rw [List.cons_append, whole?]
  by_cases hc : c = '0'
  · subst hc
    obtain rfl : r = [] := by simpa using hzero rfl
    rfl
  · rw [if_neg hc, if_pos hdigits.1, digits_append hdigits.2 hrest]
    rfl

lemma fraction_append (ht : IsFraction t)
    (hrest : ∀ c ∈ rest.head?, c.isDigit = false ∧ c ≠ '.') : fraction (t ++ rest) = (t, rest) := by
  rcases ht with rfl | ⟨ds, ⟨hne, hdigits⟩, rfl⟩
  · rw [List.nil_append, fraction]
    rintro r rfl
    exact (hrest '.' rfl).2 rfl
  · rw [List.cons_append, fraction, digits_append hdigits fun c hc => (hrest c hc).1, if_neg hne]
    rfl

lemma sign_append {marks : List Char} (hmarks : ∀ c ∈ marks, c.isDigit = false) {s : List Char}
    (hs : IsSign marks s) (ht : IsDigits t) : sign marks (s ++ (t ++ rest)) = (s, t ++ rest) := by
  rcases hs with rfl | ⟨c, hc, rfl⟩
  · obtain ⟨c, r, rfl⟩ := List.exists_cons_of_ne_nil ht.1
    have hdigit := ht.2 c List.mem_cons_self
    have hc : c ∉ marks := fun hc => by simp [hmarks c hc] at hdigit
    simp [sign, hc]
  · simp [sign, hc]

lemma exponent_append (ht : IsExponent t) (hrest : Ends rest) :
    exponent (t ++ rest) = (t, rest) := by
  rcases ht with rfl | ⟨s, ds, hs, hds, rfl⟩
  · cases rest with
    | nil => rfl
    | cons c rest =>
      have hc := (hrest c rfl).2
      simp only [List.mem_cons, List.not_mem_nil, or_false, not_or] at hc
      simp [exponent, hc.2]
  · have hdigits := digits_append hds.2 fun c hc => (hrest c hc).1
    rw [List.cons_append, List.append_assoc, exponent, sign_append (by decide) hs hds]
    simp [hdigits, hds.1]

/-- A number is read in front of what does not continue it. -/
lemma number?_append (ht : IsNumber t) (hrest : Ends rest) :
    number? (t ++ rest) = some (t, rest) := by
  obtain ⟨s, whole, f, e, hs, hwhole, hf, he, rfl⟩ := ht
  have hpoint : ∀ c ∈ (e ++ rest).head?, c.isDigit = false ∧ c ≠ '.' := by
    rcases he with rfl | ⟨_, _, -, -, rfl⟩
    · intro c hc
      have := hrest c hc
      simp only [List.mem_cons, not_or] at this
      exact ⟨this.1, this.2.1⟩
    · intro c hc
      obtain rfl := Option.some.inj hc
      decide
  have hdigit : ∀ c ∈ (f ++ (e ++ rest)).head?, c.isDigit = false := by
    rcases hf with rfl | ⟨_, -, rfl⟩
    · exact fun c hc => (hpoint c hc).1
    · intro c hc
      obtain rfl := Option.some.inj hc
      decide
  simp only [List.append_assoc, number?]
  rw [sign_append (by decide) hs hwhole.1]
  simp [whole?_append hwhole hdigit, fraction_append hf hpoint, exponent_append he hrest]

/-! ### Reading in front of other text -/

/-- Whether a character closes an array or an object. -/
def isClosing (c : Char) : Bool :=
  c ∈ [']', '\x7d']

/-- A text that is read in front of any text that does not continue a number, and that begins with
neither a blank nor a closing mark. -/
structure Reads {α : Type} (element? : List Char → Option (α × List Char)) (t : List Char)
    (x : α) : Prop where
  starts : ∃ c r, t = c :: r ∧ isBlank c = false ∧ isClosing c = false
  read : ∀ rest, Ends rest → element? (t ++ rest) = some (x, rest)

lemma skip_cons {c : Char} (hc : isBlank c = false) (rest : List Char) :
    skip (c :: rest) = c :: rest :=
  List.dropWhile_cons_of_neg (by simp [hc])

variable {α : Type} {element? : List Char → Option (α × List Char)} {close : Char}

lemma forall_isClosing {P : Char → Prop} (h : ∀ c ∈ [']', '\x7d'], P c) (hclose : isClosing close) :
    P close :=
  h close (by simpa [isClosing] using hclose)

lemma isBlank_of_isClosing (hclose : isClosing close) : isBlank close = false :=
  forall_isClosing (P := fun c => isBlank c = false) (by decide) hclose

lemma ends_of_isClosing (hclose : isClosing close) (rest : List Char) : Ends (close :: rest) := by
  intro c hc
  obtain rfl := Option.some.inj hc
  exact forall_isClosing (P := fun c => c.isDigit = false ∧ c ∉ ['.', 'e', 'E']) (by decide) hclose

/-- Elements with commas between them, up to the closing mark. -/
lemma elements?_intercalate (hclose : isClosing close) {ts : List (List Char)} {xs : List α}
    (h : List.Forall₂ (Reads element?) ts xs) (hne : ts ≠ []) (rest : List Char) :
    elements? element? close ([','].intercalate ts ++ close :: rest) = some (xs, rest) := by
  induction h with
  | nil => exact absurd rfl hne
  | @cons t x ts xs ht hts ih =>
    cases hts with
    | nil =>
      rw [List.intercalate_singleton, elements?, ht.read _ (ends_of_isClosing hclose rest)]
      simp [skip_cons (isBlank_of_isClosing hclose)]
    | @cons u y ts xs hu hts =>
      have hcomma : ',' ≠ close := by
        rintro rfl
        exact absurd hclose (by decide)
      have hends : ∀ more, Ends (',' :: more) := fun more c hc => by
        obtain rfl := Option.some.inj hc
        decide
      rw [List.intercalate_cons_cons, List.append_assoc, List.append_assoc, List.singleton_append,
        elements?, ht.read _ (hends _)]
      simp only [skip_cons (show isBlank ',' = false from rfl), if_neg hcomma]
      rw [ih (by simp), if_pos ⟨trivial, by simp; omega⟩]
      rfl

/-- Elements with commas between them, or none, up to the closing mark. -/
lemma sequence?_intercalate (hclose : isClosing close) {ts : List (List Char)} {xs : List α}
    (h : List.Forall₂ (Reads element?) ts xs) (rest : List Char) :
    sequence? element? close ([','].intercalate ts ++ close :: rest) = some (xs, rest) := by
  cases h with
  | nil =>
    rw [List.intercalate_nil, List.nil_append, sequence?, skip_cons (isBlank_of_isClosing hclose)]
    simp
  | @cons t x ts xs ht hts =>
    have helements := elements?_intercalate hclose (.cons ht hts) (by simp) rest
    obtain ⟨c, r, rfl, hblank, hc⟩ := ht.starts
    obtain ⟨r', hr'⟩ : ∃ r', [','].intercalate ((c :: r) :: ts) = c :: r' := by
      cases ts with
      | nil => exact ⟨r, List.intercalate_singleton⟩
      | cons u ts => exact ⟨_, List.intercalate_cons_cons⟩
    have hopen : c ≠ close := by
      rintro rfl
      simp [hc] at hclose
    rw [hr', List.cons_append] at helements ⊢
    rw [sequence?, skip_cons hblank]
    simp only [if_neg hopen]
    exact helements

/-! ### Values in front of other text -/

/-- The text of a string between its marks. -/
def IsStringBody (body s : List Char) : Prop :=
  ∀ rest, stringTail? (body ++ '"' :: rest) = some (s, rest)

variable {depth : Nat}

lemma reads_string {body s : List Char} (h : IsStringBody body s) :
    Reads (value? depth) ('"' :: body ++ ['"']) (.string (String.ofList s)) := by
  constructor
  · exact ⟨_, _, rfl, rfl, rfl⟩
  · intro rest _
    have hbody := h rest
    rw [value?]
    simp [skip_cons (show isBlank '"' = false from rfl), hbody]

/-- A number begins with a sign or a digit. -/
lemma IsNumber.exists_cons (h : IsNumber t) : ∃ c r, t = c :: r ∧ (c = '-' ∨ c.isDigit) := by
  obtain ⟨s, whole, f, e, hs, ⟨⟨hne, hdigits⟩, -⟩, -, -, rfl⟩ := h
  rcases hs with rfl | ⟨c, hc, rfl⟩
  · obtain ⟨c, r, rfl⟩ := List.exists_cons_of_ne_nil hne
    exact ⟨c, _, rfl, .inr (hdigits c List.mem_cons_self)⟩
  · exact ⟨c, _, rfl, .inl (List.mem_singleton.mp hc)⟩

lemma reads_number (h : IsNumber t) : Reads (value? depth) t (.number (String.ofList t)) := by
  obtain ⟨c, r, rfl, hc⟩ := h.exists_cons
  have hother : ∀ d, d ≠ '-' → d.isDigit = false → c ≠ d := by
    rintro d hsign hdigit rfl
    exact hc.elim hsign fun h => by simp [h] at hdigit
  have hblank : isBlank c = false := by
    simp [isBlank, hother]
  have hclosing : isClosing c = false := by
    simp [isClosing, hother]
  refine ⟨⟨c, r, rfl, hblank, hclosing⟩, fun rest hrest => ?_⟩
  have hnumber := number?_append h hrest
  rw [List.cons_append] at hnumber ⊢
  rw [value?, skip_cons hblank]
  simp [hother, hc, hnumber]

lemma reads_word {j : Json} (h : (t, j) ∈ words) : Reads (value? depth) t j := by
  simp only [words, List.mem_cons, List.not_mem_nil, or_false, Prod.mk.injEq] at h
  rcases h with ⟨rfl, rfl⟩ | ⟨rfl, rfl⟩ | ⟨rfl, rfl⟩
  all_goals
    constructor
    · exact ⟨_, _, rfl, rfl, rfl⟩
    · intro rest _
      rw [value?]
      simp [skip, isBlank, words, List.isPrefixOf?]

lemma reads_array {ts : List (List Char)} {js : List Json}
    (h : List.Forall₂ (Reads (value? depth)) ts js) :
    Reads (value? (depth + 1)) ('[' :: [','].intercalate ts ++ [']']) (.array js) := by
  constructor
  · exact ⟨_, _, rfl, rfl, rfl⟩
  · intro rest _
    have hitems : sequence? (value? depth) ']' ([','].intercalate ts ++ ']' :: rest) =
        some (js, rest) :=
      sequence?_intercalate rfl h rest
    rw [value?]
    simp [skip_cons (show isBlank '[' = false from rfl), hitems]

lemma reads_member {body name : List Char} (hname : IsStringBody body name) {j : Json}
    (h : Reads (value? depth) t j) :
    Reads (member? (value? depth)) ('"' :: body ++ ['"'] ++ ':' :: t) (String.ofList name, j) := by
  constructor
  · exact ⟨_, _, rfl, rfl, rfl⟩
  · intro rest hrest
    have hbody := hname (':' :: (t ++ rest))
    have hvalue := h.read rest hrest
    simp only [List.cons_append, List.append_assoc, List.nil_append]
    rw [member?, skip_cons rfl]
    simp [hbody, skip_cons (show isBlank ':' = false from rfl), hvalue]

lemma reads_object {ts : List (List Char)} {ms : List (String × Json)}
    (h : List.Forall₂ (Reads (member? (value? depth))) ts ms) :
    Reads (value? (depth + 1)) ('\x7b' :: [','].intercalate ts ++ ['\x7d']) (.object ms) := by
  constructor
  · exact ⟨_, _, rfl, rfl, rfl⟩
  · intro rest _
    have hmembers : sequence? (member? (value? depth)) '\x7d'
        ([','].intercalate ts ++ '\x7d' :: rest) = some (ms, rest) :=
      sequence?_intercalate rfl h rest
    rw [value?]
    simp [skip_cons (show isBlank '\x7b' = false from rfl), hmembers]

end Json

end JsonFilter
