import CardPress.Text.Quoted

/-! Text in UTF-8, and the first place where bytes are none. -/
namespace CardPress.Text.Utf8

inductive Reason where
  | badStart
  | badContinuation
  | shortData
  deriving DecidableEq, Repr

def Reason.text : Reason → String
  | badStart => "invalid start byte"
  | badContinuation => "invalid continuation byte"
  | shortData => "unexpected end of data"

/-- `count` bytes from `position` on that begin no character; `first` is the first of them. -/
structure Flaw where
  first : Nat
  position : Nat
  count : Nat
  reason : Reason
  deriving DecidableEq, Repr

def Flaw.message (f : Flaw) : String :=
  if f.count = 1 then
    let byte := String.ofList (hexDigits 2 f.first)
    s!"'utf-8' codec can't decode byte 0x{byte} in position {f.position}: {f.reason.text}"
  else
    s!"'utf-8' codec can't decode bytes in position {f.position}-{f.position + f.count - 1}: " ++
      f.reason.text

def isTail (b : Nat) : Bool := 0x80 ≤ b && b < 0xC0

/-- How many tail bytes follow a start byte, and the bounds of the first of them. -/
def shape? (b : Nat) : Option (Nat × Nat × Nat) :=
  if 0xC2 ≤ b && b < 0xE0 then some (1, 0x80, 0xC0)
  else if b = 0xE0 then some (2, 0xA0, 0xC0)
  else if b = 0xED then some (2, 0x80, 0xA0)
  else if 0xE0 < b && b < 0xF0 then some (2, 0x80, 0xC0)
  else if b = 0xF0 then some (3, 0x90, 0xC0)
  else if b = 0xF4 then some (3, 0x80, 0x90)
  else if 0xF0 < b && b < 0xF4 then some (3, 0x80, 0xC0)
  else none

/-- Tail bytes up to the first that is none: how many there are, and the value that they give. -/
def tails (low high count taken value : Nat) : List UInt8 → Nat × Nat × Option Reason
  | [] => (taken, value, if taken = count then none else some .shortData)
  | b :: rest =>
    if taken = count then (taken, value, none)
    else if low ≤ b.toNat && b.toNat < high then
      tails 0x80 0xC0 count (taken + 1) (64 * value + b.toNat % 64) rest
    else (taken, value, some .badContinuation)

/-- The characters, or the first flaw; `skip` bytes belong to the character read before. -/
def decodeFrom (position skip : Nat) : List UInt8 → Except Flaw (List Char)
  | [] => .ok []
  | b :: rest =>
    match skip with
    | skip + 1 => decodeFrom (position + 1) skip rest
    | 0 =>
      let n := b.toNat
      if n < 0x80 then (decodeFrom (position + 1) 0 rest).map (Char.ofNat n :: ·)
      else
        match shape? n with
        | none => .error ⟨n, position, 1, .badStart⟩
        | some (count, low, high) =>
          let lead := if count = 1 then n % 32 else if count = 2 then n % 16 else n % 8
          match tails low high count 0 lead rest with
          | (taken, _, some reason) => .error ⟨n, position, taken + 1, reason⟩
          | (_, value, none) => (decodeFrom (position + 1) count rest).map (Char.ofNat value :: ·)

def decode (bytes : List UInt8) : Except Flaw String := (decodeFrom 0 0 bytes).map String.ofList

/-- Reads text from its start, after a byte order mark if there is one. Bytes are decoded as they
come in, so a character cut off at the end is told of on its own, at position zero. -/
def decodeMarked (bytes : List UInt8) : Except Flaw String :=
  let body :=
    match bytes with
    | 0xEF :: 0xBB :: 0xBF :: rest => rest
    | _ => bytes
  if bytes = [0xEF] || bytes = [0xEF, 0xBB] then .ok ""
  else
    (decode body).mapError fun f => if f.reason = .shortData then { f with position := 0 } else f

/-- How many bytes a character takes, by its first byte; nothing for a byte that starts none. -/
def length? (b : Nat) : Option Nat :=
  if 0xC0 ≤ b && b < 0xE0 then some 2
  else if 0xE0 ≤ b && b < 0xF0 then some 3
  else if 0xF0 ≤ b && b < 0xF5 then some 4
  else none

/-- Text with U+FFFF for each byte that begins a character in vain, U+0000 for other bytes that belong to
no character, and U+FFFE for a character that is cut off at the end. -/
def decodeLoosely (skip : Nat) : List UInt8 → List Char
  | [] => []
  | b :: rest =>
    match skip with
    | skip + 1 => decodeLoosely skip rest
    | 0 =>
      let n := b.toNat
      if n < 0x80 then Char.ofNat n :: decodeLoosely 0 rest
      else if rest.length + 1 < (length? n).getD 1 then ['\uFFFE']
      else
        match shape? n with
        | none => (if (length? n).isSome then '\uFFFF' else '\x00') :: decodeLoosely 0 rest
        | some (count, low, high) =>
          let lead := if count = 1 then n % 32 else if count = 2 then n % 16 else n % 8
          match tails low high count 0 lead rest with
          | (_, _, some _) => '\uFFFF' :: decodeLoosely 0 rest
          | (_, value, none) =>
            (if value = 0xFFFE then '\uFFFF' else Char.ofNat value) :: decodeLoosely count rest

end CardPress.Text.Utf8
