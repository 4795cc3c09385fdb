/-!
# Records of separated values

Bytes are cut into records and fields.  A comma ends a field and a line break
ends a record; a carriage return and a line feed are two line breaks, and blank
lines are no records.  A field that begins with a quote runs to the quote that
closes it, two quotes inside stand for one, and what stands between the closing
quote and the separator belongs to the field as it is.  No text is malformed: an
open quote runs to the end.
-/

namespace TableQuery
namespace Csv

def comma : UInt8 := 0x2C

def quote : UInt8 := 0x22

/-- A line break: it ends a record. -/
def isBreak (b : UInt8) : Bool :=
  b == 0x0A || b == 0x0D

def isSeparator (b : UInt8) : Bool :=
  b == comma || isBreak b

/-!
## Fields
-/

/-- A text up to the next separator, and the bytes from there on. -/
def takeBare (bytes : List UInt8) : List UInt8 × List UInt8 :=
  (bytes.takeWhile fun b => !isSeparator b, bytes.dropWhile fun b => !isSeparator b)

/-- The field whose opening quote has just been read. -/
def takeQuoted : List UInt8 → List UInt8 × List UInt8
  | [] => ([], [])
  | b :: rest =>
      if b = quote then
        match rest with
        | [] => ([], [])
        | c :: rest =>
            if c = quote then
              ((c :: (takeQuoted rest).1), (takeQuoted rest).2)
            else
              takeBare (c :: rest)
      else
        (b :: (takeQuoted rest).1, (takeQuoted rest).2)

theorem takeQuoted_cons_of_ne {b : UInt8} (h : b ≠ quote) (rest : List UInt8) :
    takeQuoted (b :: rest) = (b :: (takeQuoted rest).1, (takeQuoted rest).2) := by
  rw [takeQuoted.eq_def]
  simp [h]

theorem takeQuoted_quote_quote (rest : List UInt8) :
    takeQuoted (quote :: quote :: rest) =
      (quote :: (takeQuoted rest).1, (takeQuoted rest).2) := by
  rw [takeQuoted.eq_def]
  simp

def takeField : List UInt8 → List UInt8 × List UInt8
  | [] => ([], [])
  | b :: rest => if b = quote then takeQuoted rest else takeBare (b :: rest)

theorem length_takeBare_le (bytes : List UInt8) :
    (takeBare bytes).2.length ≤ bytes.length :=
  (List.dropWhile_sublist _).length_le

theorem length_takeQuoted_le (bytes : List UInt8) :
    (takeQuoted bytes).2.length ≤ bytes.length := by
  fun_induction takeQuoted bytes with
  | case1 =>
      simp
  | case2 =>
      simp
  | case3 rest ih =>
      simp only [List.length_cons]
      omega
  | case4 c rest _ =>
      have := length_takeBare_le (c :: rest)
      simp only [List.length_cons] at this ⊢
      omega
  | case5 _ rest _ ih =>
      simp only [List.length_cons]
      omega

theorem length_takeField_le (bytes : List UInt8) :
    (takeField bytes).2.length ≤ bytes.length := by
  cases bytes with
  | nil =>
      simp [takeField]
  | cons b rest =>
      simp only [takeField]
      split
      · have := length_takeQuoted_le rest
        simp only [List.length_cons]
        omega
      · exact length_takeBare_le (b :: rest)

/-!
## Records
-/

/-- The fields of one record, and the bytes after the line break that ends it. -/
def takeRecord (bytes : List UInt8) : List (List UInt8) × List UInt8 :=
  match _h : takeField bytes with
  | (field, []) => ([field], [])
  | (field, b :: rest) =>
      if b = comma then
        let tail := takeRecord rest
        (field :: tail.1, tail.2)
      else
        ([field], rest)
termination_by bytes.length
decreasing_by
  have := length_takeField_le bytes
  rw [_h] at this
  simp only [List.length_cons] at this
  omega

theorem length_takeRecord_lt (bytes : List UInt8) (h : bytes ≠ []) :
    (takeRecord bytes).2.length < bytes.length := by
  have hpos : 0 < bytes.length := List.length_pos_iff.2 h
  fun_induction takeRecord bytes with
  | case1 =>
      simpa using hpos
  | case2 bytes field rest tail heq ih =>
      have hle := length_takeField_le bytes
      rw [heq, List.length_cons] at hle
      by_cases hrest : rest = []
      · subst hrest
        have : (takeRecord []).2.length = 0 := by
          simp [takeRecord, takeField]
        simp only [tail]
        omega
      · have := ih hrest (List.length_pos_iff.2 hrest)
        simp only [tail]
        omega
  | case3 bytes field b rest heq hb =>
      have hle := length_takeField_le bytes
      rw [heq, List.length_cons] at hle
      simp only
      omega

/-- A record, with all the bytes from its place on: the line breaks before it, it, and
what follows. -/
structure Record where
  onward : List UInt8
  fields : List (List UInt8)
  deriving Repr, DecidableEq

def records (bytes : List UInt8) : List Record :=
  match _h : bytes.dropWhile isBreak with
  | [] => []
  | b :: rest =>
      let tail := takeRecord (b :: rest)
      { onward := bytes, fields := tail.1 } :: records tail.2
termination_by bytes.length
decreasing_by
  have hle : (bytes.dropWhile isBreak).length ≤ bytes.length :=
    (List.dropWhile_sublist _).length_le
  have hlt := length_takeRecord_lt (b :: rest) (by simp)
  rw [_h] at hle
  omega

/-- The bytes without the mark that says how they are encoded. -/
def dropMark : List UInt8 → List UInt8
  | 0xEF :: 0xBB :: 0xBF :: rest => rest
  | bytes => bytes

end Csv
end TableQuery
