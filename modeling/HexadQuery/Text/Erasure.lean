/-
# Backspaces in a typed line

A line typed with corrections holds backspace characters.  Each of them erases the cluster
before it and vanishes itself; at the start of a line there is nothing to erase.

How many bytes a cluster takes is remembered in one byte.  A cluster of 256 bytes or more is
therefore erased only in part, or not at all, and what is left of it stays in the line for good.
-/
import HexadQuery.Text.Cluster

namespace HexadQuery.Text

/-- The bytes of a cluster, as far as one byte can hold their number. -/
def clusterSize (cluster : List Char) : Nat :=
  cluster.foldl (fun total c => total + c.utf8Size) 0 % UInt8.size

/-- Drop so many bytes from the front. -/
def dropBytes : Nat → List Char → List Char
  | 0, cs => cs
  | _, [] => []
  | n + 1, c :: cs => dropBytes (n + 1 - c.utf8Size) cs

/-- Apply the backspaces of a line cut into clusters; `typed` is what stands so far, last
character first, and `sizes` are the sizes of the clusters that can be erased, last one first. -/
def eraseOnto (typed : List Char) (sizes : List Nat) : List (List Char) → List Char
  | [] => typed.reverse
  | cluster :: more =>
    if cluster = ['\x08'] then
      match sizes with
      | [] => eraseOnto typed [] more
      | size :: sizes => eraseOnto (dropBytes size typed) sizes more
    else eraseOnto (cluster.reverse ++ typed) (clusterSize cluster :: sizes) more

/-- A line with its backspaces applied. -/
def applyBackspaces (s : String) : String := String.ofList (eraseOnto [] [] (clusters s.toList))

end HexadQuery.Text
