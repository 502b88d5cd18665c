/-
# Mutations

    INSERT HEXAD WITH MODALITY(payload), .. [PROOF chain]
    UPDATE HEXAD id SET field=value, .. [PROOF chain]
    DELETE HEXAD id [PROOF chain]

The three share their end: an optional PROOF clause, and nothing behind it.  In between they have
little in common.  An INSERT is a chain of groups, an UPDATE captures tokens up to the word PROOF
and cuts them as characters, and a DELETE is only its operand.

Payloads are separated by a comma that may stand in three places: at the end of the token that
closes the group, as a token of its own, or at the front of the next token (`match_leading_comma`).
In the first place the comma must be all that follows the group, so `DOCUMENT(a=1),VECTOR(b=2)` is
refused although the same text is read if a space parts it on either side of the comma.

An UPDATE checks that tokens follow SET and not that an assignment does.  A span of commas has a
token and no assignment, and is accepted.
-/
import HexadQuery.Grammar.Assignment
import HexadQuery.Grammar.Piece
import HexadQuery.Grammar.Proof

namespace HexadQuery.Rule

/-! ## 1. INSERT -/

/-- Take a comma at the front of the next token and tell whether there was one; what follows the
comma in that token stays. -/
def skipComma : Rule Bool := fun cursor =>
  match cursor.tokens with
  | [] => .ok (false, cursor)
  | token :: rest =>
    match token.text.toList with
    | [','] => .ok (true, { cursor with tokens := rest })
    | ',' :: more =>
      let token := { token with text := String.ofList more, offset := token.offset + 1 }
      .ok (true, { cursor with tokens := token :: rest })
    | _ => .ok (false, cursor)

/-- What an INSERT expects after a payload. -/
def afterPayload : String := "',' or PROOF"

/-- `MODALITY(payload)`, and whether a comma follows it. -/
def payload : Rule (Payload × Bool) := do
  let head ← operand "MODALITY(payload)"
  let call ← callHead head "(payload)"
  if !isIdentifier call.name then fail (.ofToken "modality name" head)
  let content ← group call.opening
  let item : Payload := ⟨Modality.ofName call.name, content.inner⟩
  if content.trailing = "," then return (item, true)
  if content.trailing ≠ "" then
    fail (.unexpectedToken afterPayload content.trailing ((← get).position - 1))
  return (item, ← skipComma)

/-- An INSERT, after its first word. -/
def insert : Rule Mutation := do
  let _ ← keyword "HEXAD"
  let _ ← keyword "WITH"
  let payloads ← chain payload
  if let some token ← peek then
    if !token.isKeyword "PROOF" then fail (.ofToken afterPayload token)
  let proof ← proofClause .optional
  note [.insertRead payloads.length]
  return .insert payloads proof

/-! ## 2. UPDATE -/

/-- Read one assignment; its value is not empty.  A piece without `=`, without a field or without
a value is one error, and it names the whole piece. -/
def assignment (piece : AssignmentPiece) : Rule Assignment :=
  match Piece.assignment? piece.text with
  | some assignment =>
    if assignment.value = "" then
      fail (.unexpectedToken "field=value" piece.text piece.position)
    else return assignment
  | none => fail (.unexpectedToken "field=value" piece.text piece.position)

/-- The assignments of a SET, at least one token of them.  The assignments are read from left to
right, so the first piece that is none is the one reported. -/
def setClause : Rule (List Assignment) := do
  let _ ← keyword "SET"
  let tokens ← takeUntil ["PROOF"]
  if tokens.isEmpty then fail ((← get).refusal "field=value")
  if hasOpenQuote tokens then note [.unclosedQuote]
  (assignmentPieces tokens).mapM assignment

/-- An UPDATE, after its first word. -/
def update : Rule Mutation := do
  let _ ← keyword "HEXAD"
  let id ← operand "hexad identifier"
  let assignments ← setClause
  let proof ← proofClause .optional
  note [.updateRead id.text assignments.length]
  return .update id.text assignments proof

/-! ## 3. DELETE, and all three -/

/-- A DELETE, after its first word. -/
def delete : Rule Mutation := do
  let _ ← keyword "HEXAD"
  let id ← operand "hexad identifier"
  let proof ← proofClause .optional
  return .delete id.text proof

/-- The body of a mutation, by its first word. -/
def mutationBody (first : Token) : Rule Mutation :=
  if first.isKeyword "INSERT" then insert
  else if first.isKeyword "UPDATE" then update
  else if first.isKeyword "DELETE" then delete
  else fail (.unknownStatementKind first.text first.position)

/-- A whole mutation. -/
def mutation : Rule Mutation := do
  let first ← token "INSERT, UPDATE or DELETE"
  let mutation ← mutationBody first
  finish "end of statement"
  return mutation

end HexadQuery.Rule
