/-!
# Dimensions

Dimensions of vectors and matrices. Matrices are described by their columns first.
-/

namespace GlslPrelude

/-- Number of components of a vector. -/
inductive Dim where
  | two
  | three
  | four
deriving DecidableEq, Repr

namespace Dim

/-- All the dimensions. -/
def all : List Dim :=
  [.two, .three, .four]

/-- The dimension as a number. -/
def toNat : Dim → Nat
  | .two => 2
  | .three => 3
  | .four => 4

/-- The dimension that is a given number. -/
def ofNat? : Nat → Option Dim
  | 2 => some .two
  | 3 => some .three
  | 4 => some .four
  | _ => none

/-- The digit that writes the dimension. -/
def digit : Dim → String
  | .two => "2"
  | .three => "3"
  | .four => "4"

/-- The dimension that a text writes. -/
def ofDigit? (text : List Char) : Option Dim :=
  all.find? (·.digit.toList == text)

end Dim

/-- Size of a matrix. -/
structure MatrixDim where
  /-- Number of columns. -/
  cols : Dim
  /-- Number of rows, the dimension of a column. -/
  rows : Dim
deriving DecidableEq, Repr

namespace MatrixDim

/-- The size with columns and rows swapped. -/
def transpose (d : MatrixDim) : MatrixDim :=
  { cols := d.rows, rows := d.cols }

/-- Whether there are as many columns as rows. -/
def isSquare (d : MatrixDim) : Bool :=
  d.cols = d.rows

end MatrixDim

end GlslPrelude
