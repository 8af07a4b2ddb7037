import Resources.Json.Reader

/-! What a JSON text is, said without a reader. Each rule tells which bytes stand in front, what they
mean, and which bytes are left behind them. -/
namespace Resources.Json

open Scan (Numeral isBlank isDigit hexValue gatherDigits compose realNumeral)

variable {α β : Type} {a v : α} {b t u r : Bytes}

/-- Blanks in front. -/
def Blanks (t r : Bytes) : Prop := ∃ bs, t = bs ++ r ∧ ∀ y ∈ bs, isBlank y = true

/-! ### Numbers -/

/-- Digits in front. -/
def Digits (t : Bytes) (ds : List Nat) (r : Bytes) : Prop :=
  ∃ bs, t = bs ++ r ∧ (∀ y ∈ bs, isDigit y = true) ∧ ds = bs.map fun y => y.toNat - 0x30

/-- A zero, or digits that do not begin with one. -/
def Whole (t : Bytes) (ds : List Nat) (r : Bytes) : Prop :=
  ds = [0] ∧ t = 0x30 :: r ∨ ds ≠ [] ∧ ds.head? ≠ some 0 ∧ Digits t ds r

/-- A point and digits, or nothing. -/
def Decimals (t : Bytes) (ds : List Nat) (r : Bytes) : Prop :=
  ds = [] ∧ t = r ∨ ds ≠ [] ∧ ∃ u, t = 0x2E :: u ∧ Digits u ds r

/-- The sign of a power. Without one the power is positive. -/
def PowerSign (t : Bytes) (up : Bool) (r : Bytes) : Prop :=
  up = true ∧ (t = 0x2B :: r ∨ t = r) ∨ up = false ∧ t = 0x2D :: r

/-- A power of ten by its sign and digits, or nothing. -/
def Power (t : Bytes) (up : Bool) (ds : List Nat) (r : Bytes) : Prop :=
  up = true ∧ ds = [] ∧ t = r ∨
    ∃ mark u w, t = mark :: u ∧ (mark = 0x65 ∨ mark = 0x45) ∧ PowerSign u up w ∧
      ds ≠ [] ∧ Digits w ds r

/-- Digits behind others, as one number. -/
def ofDigits (n : Nat) (ds : List Nat) : Nat := ds.foldl (fun n d => n * 10 + d) n

/-- A significand times a power of ten. Powers that 31 bits do not hold make zero, or too much. -/
def scaled? (positive : Bool) (significand : Nat) (start : Int) (up : Bool) (e : Nat) :
    Option Numeral :=
  if e < Nat.pow 2 31 then
    (compose significand.toUInt64.toFloat 8 (if up then start + e else start - e)).map
      (realNumeral positive)
  else if significand ≠ 0 && up then none
  else some (realNumeral positive 0)

/-- What a number means. It is whole if it is written as such and 64 bits hold it. -/
def meaning? (positive : Bool) (whole decimals : List Nat) (up : Bool) (power : List Nat) :
    Option Numeral :=
  let (n, dropped) := gatherDigits 0 whole
  let (m, beyond) := gatherDigits n decimals
  if dropped = 0 ∧ decimals = [] ∧ power = [] then
    if positive then some (.whole n)
    else if n = 0 ∨ Nat.pow 2 63 < n then some (realNumeral false n.toUInt64.toFloat)
    else some (.whole (-n))
  else scaled? positive m (dropped - (decimals.length - beyond : Nat)) up (ofDigits 0 power)

/-- A number after its sign. -/
def Figures (positive : Bool) (t : Bytes) (x : Numeral) (r : Bytes) : Prop :=
  ∃ whole decimals up power u w, Whole t whole u ∧ Decimals u decimals w ∧ Power w up power r ∧
    meaning? positive whole decimals up power = some x

/-! ### Texts -/

def FourHex (t : Bytes) (n : Nat) (r : Bytes) : Prop :=
  ∃ a b c d a' b' c' d', t = a :: b :: c :: d :: r ∧ hexValue a = some a' ∧ hexValue b = some b' ∧
    hexValue c = some c' ∧ hexValue d = some d' ∧ n = ((a' * 16 + b') * 16 + c') * 16 + d'

/-- Letters of short escapes, and the bytes they stand for. -/
def shortEscapes : List (UInt8 × UInt8) :=
  [(0x22, 0x22), (0x5C, 0x5C), (0x2F, 0x2F), (0x62, 0x08), (0x66, 0x0C), (0x6E, 0x0A), (0x72, 0x0D),
    (0x74, 0x09)]

/-- An escape after its backslash. Characters beyond four digits are written as two surrogates. -/
inductive Escape : Bytes → Bytes → Bytes → Prop where
  | short {y c : UInt8} {r : Bytes} (known : (y, c) ∈ shortEscapes) : Escape (y :: r) [c] r
  | unit {t r : Bytes} {n : Nat} (hex : FourHex t n r) (plain : n < 0xD800 ∨ 0xDFFF < n) :
      Escape (0x75 :: t) (Utf8.encodeChar (Char.ofNat n)) r
  | pair {t u r : Bytes} {n m : Nat} (high : FourHex t n (0x5C :: 0x75 :: u)) (low : FourHex u m r)
      (first : 0xD800 ≤ n ∧ n ≤ 0xDBFF) (second : 0xDC00 ≤ m ∧ m ≤ 0xDFFF) :
      Escape (0x75 :: t)
        (Utf8.encodeChar (Char.ofNat ((n - 0xD800) * 0x400 + (m - 0xDC00) + 0x10000))) r

/-- Bytes through the closing quote, and those they stand for. -/
inductive Quoted : Bytes → Bytes → Bytes → Prop where
  | close {r : Bytes} : Quoted (0x22 :: r) [] r
  | plain {y : UInt8} {t b r : Bytes} (printed : 0x20 ≤ y) (quote : y ≠ 0x22) (backslash : y ≠ 0x5C)
      (on : Quoted t b r) : Quoted (y :: t) (y :: b) r
  | escape {t u c b r : Bytes} (stands : Escape t c u) (on : Quoted u b r) :
      Quoted (0x5C :: t) (c ++ b) r

/-- A text after its opening quote. What its bytes stand for is UTF-8. -/
def Text (t : Bytes) (s : String) (r : Bytes) : Prop := Quoted t (utf8 s) r

/-! ### Values -/

/-- Values without brackets. -/
inductive Plain : Bytes → Value → Bytes → Prop where
  | nullWord {r : Bytes} : Plain (0x6E :: 0x75 :: 0x6C :: 0x6C :: r) .null r
  | trueWord {r : Bytes} : Plain (0x74 :: 0x72 :: 0x75 :: 0x65 :: r) (.bool true) r
  | falseWord {r : Bytes} : Plain (0x66 :: 0x61 :: 0x6C :: 0x73 :: 0x65 :: r) (.bool false) r
  | text {t r : Bytes} {s : String} (text : Text t s r) : Plain (0x22 :: t) (.text s) r
  | positive {t r : Bytes} {x : Numeral} (figures : Figures true t x r) : Plain t x.value r
  | negative {t r : Bytes} {x : Numeral} (figures : Figures false t x r) :
      Plain (0x2D :: t) x.value r

/-- Behind an item: the closing bracket, or a comma and further items. -/
inductive Further (item : Bytes → α → Bytes → Prop) (close : UInt8) : Bytes → List α → Bytes → Prop
  | close {t r : Bytes} (blanks : Blanks t (close :: r)) : Further item close t [] r
  | more {t u w x r : Bytes} {a : α} {as : List α} (comma : Blanks t (0x2C :: u))
      (blanks : Blanks u w) (here : item w a x) (on : Further item close x as r) :
      Further item close t (a :: as) r

/-- Behind an opening bracket: the closing one, or items with commas between them. -/
inductive Items (item : Bytes → α → Bytes → Prop) (close : UInt8) : Bytes → List α → Bytes → Prop
  | none {t r : Bytes} (blanks : Blanks t (close :: r)) : Items item close t [] r
  | some {t u w r : Bytes} {a : α} {as : List α} (blanks : Blanks t u) (here : item u a w)
      (on : Further item close w as r) : Items item close t (a :: as) r

/-- A name, a colon and a value. -/
def Field (item : Bytes → α → Bytes → Prop) (t : Bytes) (field : String × α) (r : Bytes) : Prop :=
  ∃ u w x y, t = 0x22 :: u ∧ Text u field.1 w ∧ Blanks w (0x3A :: x) ∧ Blanks x y ∧ item y field.2 r

/-- The fields of a record. Of those with one name the last counts. -/
def kept (fields : List (String × Value)) : List (String × Value) :=
  fields.foldl (fun fs f => Value.put fs f.1 f.2) []

/-- A value with at most `room` brackets open at a time. -/
def Written : Nat → Bytes → Value → Bytes → Prop
  | 0 => Plain
  | room + 1 => fun t v r =>
    Plain t v r ∨
    (∃ u, t = 0x5B :: u ∧ ∃ items, Items (Written room) 0x5D u items r ∧ v = .list items) ∨
    ∃ u, t = 0x7B :: u ∧
      ∃ fields, Items (Field (Written room)) 0x7D u fields r ∧ v = .record (kept fields)

/-- A value with blanks around it, and nothing else. -/
def IsText (b : Bytes) (v : Value) : Prop :=
  ∃ t r, Blanks b t ∧ Written depthLimit t v r ∧ Blanks r []

end Resources.Json
