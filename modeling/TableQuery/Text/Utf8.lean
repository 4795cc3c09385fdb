/-!
# UTF-8

Decoding bytes into characters.  Decoding goes as far as the bytes are well
formed and says what it could not read, so the length of the well-formed part
of a faulty text is known.
-/

namespace TableQuery
namespace Text
namespace Utf8

def isContinuation (b : UInt8) : Bool :=
  0x80 ≤ b && b ≤ 0xBF

def payload (b : UInt8) : Nat :=
  b.toNat % 64

/-- One character and the bytes after it.  Overlong forms, surrogates and
values above U+10FFFF are no characters. -/
def next? : List UInt8 → Option (Char × List UInt8)
  | [] => none
  | a :: rest =>
      if a < 0x80 then
        some (Char.ofNat a.toNat, rest)
      else if 0xC2 ≤ a && a ≤ 0xDF then
        match rest with
        | b :: rest =>
            if isContinuation b then
              some (Char.ofNat ((a.toNat - 0xC0) * 64 + payload b), rest)
            else
              none
        | _ => none
      else if 0xE0 ≤ a && a ≤ 0xEF then
        match rest with
        | b :: c :: rest =>
            if isContinuation b && isContinuation c && (a != 0xE0 || 0xA0 ≤ b) &&
                (a != 0xED || b ≤ 0x9F) then
              some (Char.ofNat (((a.toNat - 0xE0) * 64 + payload b) * 64 + payload c), rest)
            else
              none
        | _ => none
      else if 0xF0 ≤ a && a ≤ 0xF4 then
        match rest with
        | b :: c :: d :: rest =>
            if isContinuation b && isContinuation c && isContinuation d &&
                (a != 0xF0 || 0x90 ≤ b) && (a != 0xF4 || b ≤ 0x8F) then
              some (Char.ofNat
                ((((a.toNat - 0xF0) * 64 + payload b) * 64 + payload c) * 64 + payload d), rest)
            else
              none
        | _ => none
      else
        none

theorem next?_shorter {bytes rest : List UInt8} {c : Char}
    (h : next? bytes = some (c, rest)) : rest.length < bytes.length := by
  cases bytes with
  | nil =>
      simp [next?] at h
  | cons a bytes =>
      simp only [next?] at h
      repeat' split at h
      all_goals
        first
        | (simp only [Option.some.injEq, Prod.mk.injEq] at h
           obtain ⟨_, rfl⟩ := h
           simp
           try omega)
        | simp at h

/-- The characters of the longest well-formed beginning, and the bytes after it. -/
def decode (bytes : List UInt8) : List Char × List UInt8 :=
  match _h : next? bytes with
  | none => ([], bytes)
  | some (c, rest) =>
      let tail := decode rest
      (c :: tail.1, tail.2)
termination_by bytes.length
decreasing_by exact next?_shorter _h

/-- The text that the bytes stand for, if all of them are well formed. -/
def decode? (bytes : List UInt8) : Option (List Char) :=
  match decode bytes with
  | (cs, []) => some cs
  | _ => none

def validLength (bytes : List UInt8) : Nat :=
  bytes.length - (decode bytes).2.length

def encode (cs : List Char) : List UInt8 :=
  cs.flatMap String.utf8EncodeChar

@[simp]
theorem encode_nil : encode [] = [] :=
  rfl

theorem encode_append (s t : List Char) : encode (s ++ t) = encode s ++ encode t := by
  simp [encode]

end Utf8
end Text
end TableQuery
