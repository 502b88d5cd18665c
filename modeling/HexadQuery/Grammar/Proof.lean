/-
# Proof chains

`PROOF type (contract) AND type (contract) ..`, the one clause that queries and mutations share.  An
entry grammar allows the clause, demands it or forbids it (`ProofRequirement`).

The demand is looked at once, when the place of the clause is reached: a text that fails earlier
fails with the earlier error whatever is demanded, and a forbidden clause is refused before its
chain is read.

A type is an operand, so it is no clause keyword, but only its token is tested.  In `LIMIT(c)` the
token is not the keyword, and the type `LIMIT` gets through.  Behind an AND a clause keyword is
reported as a dangling chain, at the position of the AND.
-/
import HexadQuery.Grammar.Group
import HexadQuery.Statement.Basic

namespace HexadQuery

/-- Whether a PROOF clause may or must be there. -/
inductive ProofDemand where
  | optional
  | required
  | forbidden
  deriving DecidableEq

namespace Rule

/-- `TYPE (contract)`; the group may start in the token of the type or in the next one.  A
contract is not blank, and nothing but blanks follows the group in its last token. -/
def proofSpec : Rule ProofSpec := do
  let head ← operand "proof type"
  if opensGroup head then fail (.ofToken "proof type" head)
  let call ← callHead head "(contract name)"
  let contract ← group call.opening
  if contract.inner = "" then
    fail (.unexpectedToken "contract name" "()" call.position)
  if contract.trailing ≠ "" then
    fail (.unexpectedToken "AND or end of proof chain" contract.trailing call.position)
  return ⟨call.name, contract.inner⟩

/-- Take `AND` if it is next and tell whether it was; a proof specification must follow it. -/
def skipAnd : Rule Bool := do
  let position := (← get).position
  if ← skipKeyword "AND" then
    match ← peek with
    | none => fail (.danglingProofChain position)
    | some token =>
      if token.isAnyKeyword clauseKeywords then fail (.danglingProofChain position)
      return true
  else return false

/-- One link of a proof chain, and whether another follows. -/
def proofLink : Rule (ProofSpec × Bool) := do
  let spec ← proofSpec
  let more ← skipAnd
  return (spec, more)

/-- The PROOF clause, as the demand has it; an absent clause is an empty chain. -/
def proofClause (demand : ProofDemand) : Rule (List ProofSpec) := do
  let position := (← get).position
  if ← skipKeyword "PROOF" then
    if demand = .forbidden then fail (.unexpectedProofClause position)
    chain proofLink
  else
    if demand = .required then fail (.missingProofClause position)
    return []

end Rule

end HexadQuery
