import MailboxSearch.Toml.Token

/-! What these stand for is not kept: a text with a malformed one is no TOML, but nothing asks for their values. -/

namespace MailboxSearch.Toml

inductive Scalar
  | truth
  | number
  | date
  deriving DecidableEq

namespace Scalar

def isDigitOf (radix : Nat) (c : Char) : Bool :=
  (Quoted.hexDigit? c).any (· < radix)

def isSpaced : List Char → Bool
  | [] => false
  | '_' :: _ => false
  | [_] => true
  | _ :: '_' :: cs => isSpaced cs
  | _ :: cs => isSpaced cs

def digits? (radix : Nat) (leadingZeros : Bool) (word : List Char) : Option (List Char × List Char) :=
  let isPart (c : Char) : Bool := isDigitOf radix c || c == '_'
  let part := word.takeWhile isPart
  if isSpaced part && (leadingZeros || part.length == 1 || part.head? != some '0') then
    some (part.filter (· != '_'), word.dropWhile isPart)
  else none

def ofDigits (radix : Nat) (digits : List Char) : Nat :=
  digits.foldl (fun n c => radix * n + (Quoted.hexDigit? c).getD 0) 0

def sign : List Char → Bool × List Char
  | '-' :: word => (true, word)
  | word => (false, word)

def isInteger (radix : Nat) (word : List Char) : Bool :=
  let (negative, word) := if radix == 10 then sign word else (false, word)
  match digits? radix (radix != 10) word with
  | some (digits, []) =>
    let n := ofDigits radix digits
    if negative then n ≤ Nat.pow 2 63 else n < Nat.pow 2 63
  | _ => false

/-- The least number that rounds to no finite double: half a unit above the greatest one. -/
def overflow : Nat :=
  Nat.pow 2 1024 - Nat.pow 2 970

def isFinite (digits : List Char) (exponent : Int) : Bool :=
  let digits := digits.dropWhile (· == '0')
  let magnitude := digits.length + exponent
  let n := ofDigits 10 digits
  if digits.isEmpty || magnitude < 300 then true
  else if magnitude > 310 then false
  else if exponent < 0 then n < overflow * Nat.pow 10 exponent.natAbs
  else n * Nat.pow 10 exponent.natAbs < overflow

def afterFinite? (whole fraction : List Char) (negative : Bool)
    (exponent : Option (List Char × List Char)) (ts : List Token) : Option (List Token) :=
  match exponent with
  | some (digits, []) =>
    let n : Int := ofDigits 10 digits
    if isFinite (whole ++ fraction) ((if negative then -n else n) - fraction.length) then some ts else none
  | _ => none

def afterExponent? (whole fraction word : List Char) (ts : List Token) : Option (List Token) :=
  let close := afterFinite? whole fraction
  match word with
  | [] => close false (some ([], [])) ts
  | mark :: word =>
    if mark != 'e' && mark != 'E' then none
    else if word.isEmpty then
      match ts with
      | .plus :: .bare w :: ts => close false (digits? 10 true w.toList) ts
      | .bare w :: ts => close false (digits? 10 true w.toList) ts
      | _ => none
    else
      let (negative, word) := sign word
      close negative (digits? 10 true word) ts

def afterFloat? (word : List Char) (fraction : Option (List Char)) (ts : List Token) : Option (List Token) := do
  let (whole, rest) ← digits? 10 false (sign word).2
  match fraction with
  | none => afterExponent? whole [] rest ts
  | some fraction =>
    if rest.isEmpty then
      let (fraction, rest) ← digits? 10 true fraction
      afterExponent? whole fraction rest ts
    else none

def afterNumber? (word : List Char) (ts : List Token) : Option (List Token) :=
  let integer (radix : Nat) (digits : List Char) : Option (List Token) :=
    if isInteger radix digits then some ts else none
  match word with
  | '0' :: 'x' :: digits => integer 16 digits
  | '0' :: 'o' :: digits => integer 8 digits
  | '0' :: 'b' :: digits => integer 2 digits
  | _ =>
    if word.contains 'e' || word.contains 'E' then afterFloat? word none ts
    else
      match ts with
      | .period :: .bare fraction :: ts => afterFloat? word (some fraction.toList) ts
      | .period :: _ => none
      | _ =>
        let name := (sign word).2
        if name == ['i', 'n', 'f'] || name == ['n', 'a', 'n'] then some ts else integer 10 word

def hasNegativeExponent : List Char → Bool
  | 'e' :: '-' :: _ => true
  | 'E' :: '-' :: _ => true
  | _ :: cs => hasNegativeExponent cs
  | [] => false

def isDate (word : List Char) : Bool :=
  word.contains 'T' || word.contains 't' || ((word.drop 1).contains '-' && !hasNegativeExponent word)

def afterMarked? (mark : Token) : List Token → Option (List Token)
  | [] => some []
  | t :: ts =>
    if t = mark then
      match ts with
      | .bare _ :: ts => some ts
      | _ => none
    else some (t :: ts)

def afterTime? : List Token → Option (List Token)
  | .bare _ :: .colon :: .bare _ :: ts => do
    afterMarked? .colon (← afterMarked? .plus (← afterMarked? .period ts))
  | _ => none

def skipHour : List Token → List Token
  | .blank " " :: .bare _ :: ts => ts
  | ts => ts

def afterDate? (ts : List Token) : Option (List Token) :=
  match skipHour ts with
  | .colon :: ts => afterTime? ts
  | ts => some ts

def isNumeric (word : List Char) : Bool :=
  word == ['i', 'n', 'f'] || word == ['n', 'a', 'n'] || word.head?.any fun c => c == '-' || c.isDigit

def ofWord? (word : List Char) (ts : List Token) : Option (Scalar × List Token) :=
  if word == "true".toList || word == "false".toList then some (truth, ts)
  else if !isNumeric word then none
  else if isDate word then (afterDate? ts).map (date, ·)
  else
    match ts with
    | .colon :: ts => (afterTime? (skipHour ts)).map (date, ·)
    | ts => (afterNumber? word ts).map (number, ·)

theorem afterMarked?_length {mark : Token} {ts r : List Token} (h : afterMarked? mark ts = some r) :
    r.length ≤ ts.length := by
  unfold afterMarked? at h
  split at h
  · cases h
    exact Nat.le_refl _
  · split at h
    · split at h
      · cases h
        exact Nat.le_add_right _ 2
      · cases h
    · cases h
      exact Nat.le_refl _

theorem afterTime?_length {ts r : List Token} (h : afterTime? ts = some r) : r.length ≤ ts.length := by
  unfold afterTime? at h
  split at h
  · obtain ⟨u, hu, h⟩ := Option.bind_eq_some_iff.1 h
    obtain ⟨v, hv, h⟩ := Option.bind_eq_some_iff.1 h
    have := afterMarked?_length hu
    have := afterMarked?_length hv
    have := afterMarked?_length h
    simp only [List.length_cons]
    omega
  · cases h

theorem skipHour_length (ts : List Token) : (skipHour ts).length ≤ ts.length := by
  unfold skipHour
  split
  · exact Nat.le_add_right _ 2
  · exact Nat.le_refl _

theorem afterDate?_length {ts r : List Token} (h : afterDate? ts = some r) : r.length ≤ ts.length := by
  have hs := skipHour_length ts
  unfold afterDate? at h
  split at h
  · next hc =>
    rw [hc] at hs
    exact Nat.le_trans (afterTime?_length h) (Nat.le_of_succ_le hs)
  · cases h
    exact hs

theorem afterFinite?_length {whole fraction : List Char} {negative : Bool}
    {exponent : Option (List Char × List Char)} {ts r : List Token}
    (h : afterFinite? whole fraction negative exponent ts = some r) : r.length ≤ ts.length := by
  unfold afterFinite? at h
  split at h
  · obtain ⟨-, he⟩ := Option.ite_none_right_eq_some.1 h
    cases he
    exact Nat.le_refl _
  · cases h

theorem afterExponent?_length {whole fraction word : List Char} {ts r : List Token}
    (h : afterExponent? whole fraction word ts = some r) : r.length ≤ ts.length := by
  unfold afterExponent? at h
  dsimp only at h
  split at h
  · exact afterFinite?_length h
  · split at h
    · cases h
    · split at h
      · split at h
        · exact Nat.le_trans (afterFinite?_length h) (Nat.le_add_right _ 2)
        · exact Nat.le_trans (afterFinite?_length h) (Nat.le_add_right _ 1)
        · cases h
      · exact afterFinite?_length h

theorem afterFloat?_length {word : List Char} {fraction : Option (List Char)} {ts r : List Token}
    (h : afterFloat? word fraction ts = some r) : r.length ≤ ts.length := by
  unfold afterFloat? at h
  obtain ⟨⟨whole, rest⟩, -, h⟩ := Option.bind_eq_some_iff.1 h
  cases fraction with
  | none => exact afterExponent?_length h
  | some fraction =>
    dsimp only at h
    split at h
    · obtain ⟨⟨fraction, rest⟩, -, h⟩ := Option.bind_eq_some_iff.1 h
      exact afterExponent?_length h
    · cases h

theorem integer_length {radix : Nat} {digits : List Char} {ts r : List Token}
    (h : (if isInteger radix digits then some ts else none) = some r) : r.length ≤ ts.length := by
  split at h
  · cases h
    exact Nat.le_refl _
  · cases h

theorem afterNumber?_length {word : List Char} {ts r : List Token} (h : afterNumber? word ts = some r) :
    r.length ≤ ts.length := by
  unfold afterNumber? at h
  dsimp only at h
  split at h
  · exact integer_length h
  · exact integer_length h
  · exact integer_length h
  · split at h
    · exact afterFloat?_length h
    · split at h
      · exact Nat.le_trans (afterFloat?_length h) (Nat.le_add_right _ 2)
      · cases h
      · split at h
        · cases h
          exact Nat.le_refl _
        · exact integer_length h

theorem ofWord?_length {word : List Char} {ts r : List Token} {s : Scalar} (h : ofWord? word ts = some (s, r)) :
    r.length ≤ ts.length := by
  unfold ofWord? at h
  split at h
  · cases h
    exact Nat.le_refl _
  · split at h
    · cases h
    · split at h
      · obtain ⟨r, hr, he⟩ := Option.map_eq_some_iff.1 h
        cases he
        exact afterDate?_length hr
      · split at h
        · obtain ⟨r, hr, he⟩ := Option.map_eq_some_iff.1 h
          cases he
          exact Nat.le_trans (afterTime?_length hr) (Nat.le_trans (skipHour_length _) (Nat.le_add_right _ 1))
        · obtain ⟨r, hr, he⟩ := Option.map_eq_some_iff.1 h
          cases he
          exact afterNumber?_length hr

end Scalar

end MailboxSearch.Toml
