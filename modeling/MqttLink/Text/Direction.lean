import MqttLink.Text.Runs

/-!
# Writing directions

Letters are written from the left or from the right, and all else adapts. A label of a domain keeps
to one direction, so that it looks the same wherever it stands.
-/

namespace MqttLink.Text

inductive Direction where
  | leftToRight
  | rightToLeft
  | arabicLetter
  | arabicNumber
  | europeanNumber
  | europeanSeparator
  | europeanTerminator
  | commonSeparator
  | otherNeutral
  | boundaryNeutral
  | nonspacingMark
  /-- A control or a separator of lines and words. -/
  | control
  deriving DecidableEq, Repr

namespace Direction

/-- The characters of every direction but from the left. -/
def table : List (Direction × Runs) := [
  (.rightToLeft, .ofText
    "590 1 2d 1 1 1 2 1 2 1 1 38 1c0 2b 9 2 4 3 1 18 4 1 9 1 3 1 5 2b 3 4 17af 1 db0d 1 1 a 1 26
     cb0 11f 1 e1 3 1 2 5 4 28 3 4 1 a5 2 52 7 1c0 4a 1f 6 f1 1f 2c 2 13 40 30 40 12 4 7a d800 d0
     7 6d 7 325 50 40 50 b0 100 100"),
  (.arabicLetter, .ofText
    "608 1 2 1 1 1 d 30 22 3 1 65 f 2 7 2 a 17 1 1e 1b 5b b f a0 30 2 5 9 2a f286 73 10 16b 12 40
     2 36 28 d 73 8f e01 24 4 8 a 6 180 10 9 21 36 16 b 1f dd00 50 40 50 b0 f0 2 e"),
  (.arabicNumber, .ofText
    "600 6 5a a 1 2 70 1 1b2 2 50 1 1044d a 6 a 116 1f"),
  (.europeanNumber, .ofText
    "30 a 78 2 5 1 636 a 1976 1 3 6 6 a 3fe 14 da74 a 3c7 1b c9f4 a ad4 32 1900 b ae5 a"),
  (.europeanSeparator, .ofText
    "2b 1 1 1 204c 2 e 2 186 1 d916 1 338 2 a7 1 1 1"),
  (.europeanTerminator, .ofText
    "23 3 7c 4 a 2 4dd 1 79 2 5f 1 387 2 7 1 f5 1 107 1 245 1 99b 1 854 5 6b 30 5e 1 e4 1 8624 2
     5625 1 9 2 98 3 da 2 3 2 1ff6 4 c31e 1"),
  (.commonSeparator, .ofText
    "2c 1 1 2 a 1 65 1 56b 1 1a22 1 14 1 de0b 1 1 1 2 1 b6 1 1 2 a 1"),
  (.otherNeutral, .ofText
    "21 2 3 5 10 6 1a 6 1a 4 22 1 4 4 1 2 1 2 4 1 1 3 2 5 17 1 1f 1 1c1 2 7 e 2 e 5 9 1 11 74 2 8
     1 5 2 1 1 6e 1 193 1 2 2 77 2 6 2 ce 1 a 1 10c 4 3f9 6 1 1 7d 7 2bb 4 452 a 66 1 29a 2 153 a
     6 b 135 1 3 2 98 22 5bd 1 1 3 b 3 d 3 d 3 d 2 11 18 d f 1 1a 1d 3 d 3 71 2 1 4 1 2 a 1 1 3 5
     6 1 1 1 1 1 1 10 2 4 5 5 4 2 10 29 3 4 82 2 122 45 1a 1 94 16 b 15 28 62 1c2 1 153 100 274 2
     8a e5 6 e 7 100 5e 22 1a 1 59 c d6 1a 10 1 4 3 19 f 1 5 2 5 3 5b 2 3 1 5a 1 c4 26 9 1 2d 2
     31 10 1c 3 32 f c 4 a7 4 63 2 1f 1 19c0 40 5690 37 146 3 63 1 a 2 80 22 66 1 9f 4 48 4 2f2 2
     5057 10 16b 12 40 2 36 8 2d 3 10 a 16 20 1 1 2 1 1 9 1 2 2 3 1 1 2 1 95 2 3 5 10 6 1a 6 1a b
     7c 3 3 7 a 5 103 1 3e 4d 3 d 3 1 77e 1 219 7 22e 1 161 9 179 14 5fa d 968 8 4 11 4ff0 1 5c1d
     d6 24 3 3 1b4 6 17 f 11 2f8 2 15 42 3 1 ba 57 36a 1 19 1 1f 1 19 1 1f 1 19 1 1f 1 19 1 1f 1
     19 1 172c 2 10e 2c 4 64 c f 2 f 1 f 1 25 15 5 1f 1 3a 6 3d 1 b2 6 9a 3d9 3 11 3 d 3 da 6 c 4
     1 f c 4 38 8 a 6 28 8 1e 2 c 4 2 e 9 27 158 8 e 2 d 3 b 3 39 1 1 4 10 2 c 4 a 7 93 1 5c a 1"),
  (.boundaryNeutral, .ofText
    "0 9 5 e 63 6 1 1a d 1 1760 1 7fc 3 52 6 4 6 dd60 20 10f 1 f0 9 5 2 bca0 4 14cf 8 2e83 2 fffe
     2 fffe 2 fffe 2 fffe 2 fffe 2 fffe 2 fffe 2 fffe 2 fffe 2 fffe 2 fffe 2 fffe 102 f0 e10 effe
     2 fffe 2 fffe 2"),
  (.nonspacingMark, .ofText
    "300 70 113 7 107 2d 1 1 1 2 1 2 1 1 48 b 30 15 10 1 65 7 2 6 2 2 1 4 23 1 1e 1b 5b b 3a 9 9
     1 18 4 1 9 1 3 1 5 2b 3 3b 9 2a 18 1 20 37 1 1 1 4 8 4 1 3 7 a 2 1d 1 3a 1 4 4 8 1 14 2 1a 1
     2 2 39 1 4 2 4 2 2 3 3 1 1e 2 3 1 b 2 39 1 4 5 1 2 4 1 14 2 16 6 1 1 3a 1 2 1 1 4 8 1 7 2 b
     2 1e 1 3d 1 c 1 32 1 3 1 37 1 1 3 5 3 1 4 7 2 b 2 1d 1 3a 1 f 2 14 2 1c 2 39 2 4 4 8 1 14 2
     1d 1 48 1 7 3 1 1 5a 1 2 7 c 8 62 1 2 9 b 7 49 2 1b 1 1 1 1 1 37 e 1 5 1 2 5 b 1 24 9 1 66 4
     1 6 1 2 2 2 19 2 4 3 10 4 d 1 2 2 6 1 f 1 2bf 3 3b2 3 1d 2 1e 2 1e 2 40 2 1 7 8 1 2 b 9 1 2d
     3 1 1 75 2 22 1 76 3 4 2 9 1 6 3 db 2 2 1 3a 1 1 7 1 1 1 1 2 8 6 a 2 1 30 2e 2 c 14 4 30 1 1
     5 1 1 5 1 28 9 c 2 20 4 2 2 1 3 38 1 1 2 3 1 1 3 3a 8 2 2 98 3 1 d 1 7 4 1 6 1 3 2 c6 40 2d0
     21 bfe 3 8d 1 60 20 22a 4 6b 2 75d4 4 1 a 20 2 50 2 110 1 3 1 4 1 19 2 5 1 97 2 1a 12 d 1 26
     8 19 b 2e 3 30 1 2 4 2 2 27 1 43 6 2 2 2 2 c 1 8 1 2f 1 33 1 1 3 2 2 5 2 1 1 2a 2 8 1 ee 1 2
     1 4 1 4f30 1 2e1 10 10 10 3cd 1 e2 1 95 5 686 3 1 2 5 4 28 3 4 1 a5 2 23d 4 41 5 13d 2 4d 6
     46 b 31 4 7b 1 36 f 29 1 2 2 a 3 31 4 2 2 7 1 3d 3 24 5 1 8 3e 1 c 2 34 9 a 4 2 1 5f 3 2 1 1
     2 6 1 2 1 9d 1 3 8 15 2 39 2 3 1 25 7 3 5 46 6 d 1 1 1 1 1 e 2 55 8 2 3 1 1 17 1 54 6 1 1 4
     2 1 2 ee 4 6 2 1 2 1b 2 55 8 2 1 1 2 6a 1 1 1 2 6 1 1 65 1 1 1 2 4 1 5 103 9 1 2 100 2 1 1 4
     1 90 4 2 2 4 1 20 6 2 2 28 6 2 4 8 1 9 6 2 3 2e d 1 2 c6 1 1 3 1 1 c9 7 1 6 54 16 2 7 1 2 1
     2 7a 6 3 1 1 2 1 7 1 1 48 2 3 1 1 1 15b 2 b 2 34 5 5 1 1 1 17 1 14e5 1 6 f 2cc8 c 3 3 9c0 5
     3b 7 418 1 3f 4 51 1 4cb8 2 1261 2e 2 17 220 3 11 8 2 7 1e 4 94 3 7bb 37 4 32 8 1 e 1 16 5 1
     f 550 7 1 11 2 7 1 2 1 5 64 1 a0 7 177 1 3d 4 1fc 4 fe 2 f3 1 2 1 7 2 5 1 1da 7 6d 7 c17b5 f0"),
  (.control, .ofText
    "9 5 e 5 64 1 15fa 1 97f b 1d 7 30 1 6 4 f96 1")]

def of (c : Char) : Direction := (table.find? (·.2.contains c)).elim .leftToRight (·.1)

/-! ## Labels -/

/-- Makes a domain one in which direction matters. -/
def isFromRight : Direction → Bool
  | rightToLeft | arabicLetter | arabicNumber => true
  | _ => false

/-- May stand in a label of either direction. -/
def isCommon : Direction → Bool
  | europeanNumber | europeanSeparator | europeanTerminator | commonSeparator | otherNeutral
  | boundaryNeutral | nonspacingMark => true
  | _ => false

def dropMarks (ds : List Direction) : List Direction :=
  (ds.reverse.dropWhile (· == nonspacingMark)).reverse

/-- A label from the left ends in a letter or a number, marks aside. -/
def fitsLeft (ds : List Direction) : Bool :=
  ds.all (fun d => d == leftToRight || d.isCommon) &&
  ds.getLast?.all fun d => d == leftToRight || d == europeanNumber

/-- A label from the right ends in a letter or a number, marks aside, and has numbers of one kind. -/
def fitsRight (ds : List Direction) : Bool :=
  ds.all (fun d => d.isFromRight || d.isCommon) &&
  (ds.getLast?.all fun d => d.isFromRight || d == europeanNumber) &&
  !(ds.contains europeanNumber && ds.contains arabicNumber)

/-- A label begins with a letter, and the letter says how it goes on. -/
def fits (label : List Char) : Bool :=
  match label.map of with
  | [] => true
  | leftToRight :: rest => fitsLeft (dropMarks (leftToRight :: rest))
  | rightToLeft :: rest => fitsRight (dropMarks (rightToLeft :: rest))
  | arabicLetter :: rest => fitsRight (dropMarks (arabicLetter :: rest))
  | _ => false

/-- Direction matters only if something goes from the right. -/
def allFit (labels : List (List Char)) : Bool :=
  !(labels.any fun label => label.any fun c => (of c).isFromRight) || labels.all fits

end Direction

end MqttLink.Text
