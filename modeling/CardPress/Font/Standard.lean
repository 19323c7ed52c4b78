import CardPress.Font.Widths
import CardPress.Number.Scalar

/-! The standard fonts and what they measure. -/
namespace CardPress

inductive StandardFont where
  | helvetica
  | helveticaBold
  | helveticaOblique
  | helveticaBoldOblique
  | timesRoman
  | timesBold
  | timesItalic
  | timesBoldItalic
  | courier
  | courierBold
  | courierOblique
  | courierBoldOblique
  | symbol
  | zapfDingbats
  deriving DecidableEq, Repr

namespace StandardFont

def all : List StandardFont :=
  [helvetica, helveticaBold, helveticaOblique, helveticaBoldOblique, timesRoman, timesBold,
    timesItalic, timesBoldItalic, courier, courierBold, courierOblique, courierBoldOblique, symbol,
    zapfDingbats]

def name : StandardFont → String
  | helvetica => "Helvetica"
  | helveticaBold => "Helvetica-Bold"
  | helveticaOblique => "Helvetica-Oblique"
  | helveticaBoldOblique => "Helvetica-BoldOblique"
  | timesRoman => "Times-Roman"
  | timesBold => "Times-Bold"
  | timesItalic => "Times-Italic"
  | timesBoldItalic => "Times-BoldItalic"
  | courier => "Courier"
  | courierBold => "Courier-Bold"
  | courierOblique => "Courier-Oblique"
  | courierBoldOblique => "Courier-BoldOblique"
  | symbol => "Symbol"
  | zapfDingbats => "ZapfDingbats"

def ofName? (s : String) : Option StandardFont := all.find? (·.name = s)

/-- The widths of the glyphs; a Courier has those of Helvetica, all of them equally wide. -/
def widths : StandardFont → List (Nat × List Nat)
  | helvetica | helveticaOblique => Font.Widths.helvetica
  | helveticaBold | helveticaBoldOblique => Font.Widths.helveticaBold
  | timesRoman => Font.Widths.timesRoman
  | timesBold => Font.Widths.timesBold
  | timesItalic => Font.Widths.timesItalic
  | timesBoldItalic => Font.Widths.timesBoldItalic
  | courier | courierBold | courierOblique | courierBoldOblique =>
    Font.Widths.helvetica.map fun (first, run) => (first, run.map fun _ => 600)
  | symbol => Font.Widths.symbol
  | zapfDingbats => Font.Widths.zapfDingbats

/-- How far glyphs reach above the base line, in thousandths of the size. -/
def ascent : StandardFont → Nat
  | helvetica | helveticaBold | helveticaOblique | helveticaBoldOblique => 718
  | timesRoman | timesItalic => 683
  | timesBold => 676
  | timesBoldItalic => 699
  | courier | courierOblique => 629
  | courierBold | courierBoldOblique => 626
  | symbol | zapfDingbats => 0

/-- How far glyphs reach below the base line, in thousandths of the size. -/
def descent : StandardFont → Nat
  | helvetica | helveticaBold | helveticaOblique | helveticaBoldOblique => 207
  | timesRoman => 217
  | timesBold | timesItalic | timesBoldItalic => 205
  | courier | courierOblique => 157
  | courierBold | courierBoldOblique => 142
  | symbol | zapfDingbats => 0

def widthIn? (c : Char) : List (Nat × List Nat) → Option Nat
  | [] => none
  | (first, run) :: rest =>
    if first ≤ c.toNat then
      match run[c.toNat - first]? with
      | some w => some w
      | none => widthIn? c rest
    else none

/-- The width of what stands for a character that no font has. -/
def missingWidth : Nat := 761

/-- The width of a character; what a font lacks is taken from the two fonts of symbols. -/
def charWidth (font : StandardFont) (c : Char) : Nat :=
  ((widthIn? c font.widths).or
    ((widthIn? c Font.Widths.symbol).or (widthIn? c Font.Widths.zapfDingbats))).getD missingWidth

/-- The width of text, in thousandths of the size. -/
def textUnits (font : StandardFont) (s : String) : Nat := (s.toList.map font.charWidth).foldr (· + ·) 0

end StandardFont

namespace Font

variable {α : Type} [Scalar α]

/-- The font that stands in where a name belongs to no standard font. -/
def measured (name : String) : StandardFont := (StandardFont.ofName? name).getD .helvetica

def textWidth (name : String) (size : α) (s : String) : α :=
  Scalar.ofNat ((measured name).textUnits s) * Scalar.decimal 1 3 * size

def ascent (name : String) (size : α) : α :=
  Scalar.ofNat (measured name).ascent * size / Scalar.ofNat 1000

def descent (name : String) (size : α) : α :=
  Scalar.ofNat (measured name).descent * size / Scalar.ofNat 1000

end Font

end CardPress
