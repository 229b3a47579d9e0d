import DnsSteering.International.Decompositions
import DnsSteering.International.Tables

namespace DnsSteering.International

open DnsSteering.Text

namespace Hangul

def isSyllable (n : Nat) : Bool := 0xAC00 ≤ n && n < 0xAC00 + 11172

def decompose (n : Nat) : List Nat :=
  let i := n - 0xAC00
  let trail := i % 28
  [0x1100 + i / 588, 0x1161 + i % 588 / 28] ++ (if trail = 0 then [] else [0x11A7 + trail])

def isLead (n : Nat) : Bool := 0x1100 ≤ n && n < 0x1100 + 19
def isVowel (n : Nat) : Bool := 0x1161 ≤ n && n < 0x1161 + 21
def isTrail (n : Nat) : Bool := 0x11A7 < n && n < 0x11A7 + 28

-- A lead and a vowel, or a syllable without trail and a trail.
def compose? (n m : Nat) : Option Nat :=
  if isLead n && isVowel m then some (0xAC00 + ((n - 0x1100) * 21 + (m - 0x1161)) * 28)
  else if isSyllable n && (n - 0xAC00) % 28 = 0 && isTrail m then some (n + (m - 0x11A7))
  else none

end Hangul

def decompose (n : Nat) : List Nat :=
  if n < 128 then [n]
  else if Hangul.isSyllable n then Hangul.decompose n
  else
    match Table.shift? singleDecompositionTable n with
    | some image => [image]
    | none => (decompositionTable.lookup n).getD [n]

def combiningClass (n : Nat) : Nat :=
  if n < 128 then 0
  else
    (combiningTable.findSome? fun (first, last, c) =>
      if first ≤ n && n ≤ last then some c else none).getD 0

-- Puts a mark before the first one of a higher class; starters bar the way.
def insertMark (n c : Nat) : List Nat → List Nat
  | [] => [n]
  | m :: ms =>
    let d := combiningClass m
    if d = 0 || c < d then n :: m :: ms else m :: insertMark n c ms

-- `marks` are the ordered marks since the last starter.
def orderFrom (marks : List Nat) : List Nat → List Nat
  | [] => marks
  | n :: ns =>
    let c := combiningClass n
    if c = 0 then marks ++ n :: orderFrom [] ns else orderFrom (insertMark n c marks) ns

def compose? (n m : Nat) : Option Nat :=
  match Hangul.compose? n m with
  | some k => some k
  | none => compositionTable.lookup (n, m)

-- `base` is the character that following ones may join, `kept` what came after it without joining,
-- last first, and `barrier` the class of the last kept mark.
def composeFrom (base : Nat) (kept : List Nat) (barrier : Nat) : List Nat → List Nat
  | [] => base :: kept.reverse
  | n :: ns =>
    let c := combiningClass n
    let reaches := kept.isEmpty || barrier < c
    match if reaches then compose? base n else none with
    | some k => composeFrom k kept barrier ns
    | none =>
      if c = 0 then base :: kept.reverse ++ composeFrom n [] 0 ns
      else composeFrom base (n :: kept) (if reaches then c else barrier) ns

def compose : List Nat → List Nat
  | [] => []
  | n :: ns => composeFrom n [] 0 ns

-- Compatibility normalization: decompose fully, order the combining marks, compose what composes.
def normalize (ns : List Nat) : List Nat := compose (orderFrom [] (ns.flatMap decompose))

end DnsSteering.International
