/-
# SELECT lists

The tokens between SELECT and FROM are cut into pieces at commas; a function name at the end of a
token takes the next token as its operand when that opens a group, so `COUNT (*)` and `COUNT(*)`
are one piece each.  Every piece is an item or is not recognised, and the mode says what becomes of
the latter.

`select_clause` does all of this in one loop over the tokens and registers each item as it finds
it.  Here the loop is taken apart into three passes that do not look at each other: `ofTokens` cuts
the tokens into pieces, `SelectItem.parse?` says what a piece is, and `SelectList.collect`
registers the items.  The passes give the same list and the same error, because a strict reading
fails on the first piece that is not recognised and notes nothing before.

An operand in a token of its own (`detached_operand`) is taken whole, apart from the commas at its
end: in `COUNT (*),GRAPH` the piece is `COUNT(*),GRAPH`, which is no item.  The attached spelling
is cut at its commas first.  That the two differ is a property of the grammar and is kept.
-/
import HexadQuery.Config
import HexadQuery.Grammar.Group
import HexadQuery.Grammar.Piece
import HexadQuery.Statement.SelectList

namespace HexadQuery

/-! ## 1. Pieces -/

/-- A piece of a SELECT list and the index of the token an error about it points at. -/
structure SelectPiece where
  text : String
  position : Nat
  deriving DecidableEq

namespace SelectPiece

/-- The pieces of a token by itself. -/
def ofToken (token : Token) : List SelectPiece :=
  (Piece.commaPieces token.text).map fun piece => ⟨piece, token.position⟩

/-- Whether a token ends in a function name that still waits for its operand.  A comma at the end
of the token ends the waiting: `COUNT, (*)` is two pieces. -/
def awaitsOperand (token : Token) : Bool :=
  token.text.toList.getLast? != some ',' &&
    (Piece.commaPieces token.text).getLast?.any fun piece =>
      (AggregateFunction.ofName? piece).isSome

/-- The pieces of a token whose last one is a function name, with the next token as the operand.
Commas after the operand are dropped. -/
def ofCall (token operand : Token) : List SelectPiece :=
  let pieces := Piece.commaPieces token.text
  let argument := String.ofList (Text.cutTrailing ',' operand.text.toList)
  (pieces.dropLast.map fun piece => ⟨piece, token.position⟩) ++
    [⟨pieces.getLastD "" ++ argument, operand.position⟩]

/-- The pieces of a SELECT list. -/
def ofTokens : List Token → List SelectPiece
  | [] => []
  | [token] => ofToken token
  | token :: next :: rest =>
    if awaitsOperand token && Rule.opensGroup next then ofCall token next ++ ofTokens rest
    else ofToken token ++ ofTokens (next :: rest)

end SelectPiece

/-! ## 2. Items -/

/-- The item a piece spells: `*`, an aggregate call, a projection or a registered name.  A piece
that has the shape of an aggregate call is nothing else. -/
def SelectItem.parse? (registry : Registry) (piece : String) : Option SelectItem :=
  if piece = "*" then some (.selected .all)
  else
    match Piece.aggregateCall? piece with
    | some (.count, .star) => some (.aggregate .countAll)
    | some (function, .field operand) => some (.aggregate (.ofField function operand))
    | some _ => none
    | none =>
      match Piece.projection? piece with
      | some field => some (.projection field)
      | none => (registry.resolve? piece).map fun modality => .selected (.modality modality)

namespace SelectPiece

/-- The item of a piece, if it is recognised. -/
def item? (registry : Registry) (piece : SelectPiece) : Option SelectItem :=
  SelectItem.parse? registry piece.text

/-- The pieces that are not recognised, in order. -/
def unrecognised (registry : Registry) (pieces : List SelectPiece) : List SelectPiece :=
  pieces.filter fun piece => (piece.item? registry).isNone

/-- The list the recognised pieces collect to. -/
def collect (registry : Registry) (pieces : List SelectPiece) : SelectList :=
  SelectList.collect (pieces.filterMap (item? registry))

end SelectPiece

/-! ## 3. The clause -/

namespace Rule

/-- What a strict reading expects where it finds an unrecognised piece. -/
def selectItemExpected : String := "aggregate, MODALITY.field, * or modality name"

/-- Settle the pieces of a SELECT list: a strict reading fails on the first unrecognised piece,
a lenient one notes and drops them all. -/
def selectItems (config : Config) (pieces : List SelectPiece) : Rule SelectList := do
  let strange := SelectPiece.unrecognised config.registry pieces
  match config.mode, strange with
  | .strict, piece :: _ =>
    fail (.unexpectedToken selectItemExpected piece.text piece.position)
  | _, _ =>
    let list := SelectPiece.collect config.registry pieces
    note (strange.map fun piece => .droppedItem piece.text piece.position)
    note [.selectListRead list.modalities.length list.projections.length list.aggregates.length]
    return list

/-- `SELECT item, ..` up to FROM or the end of the input. -/
def selectClause (config : Config) : Rule SelectList := do
  let _ ← keyword "SELECT"
  if let some token ← peek then
    if token.isKeyword "FROM" then fail (.ofToken "select item" token)
  let tokens ← takeUntil ["FROM"]
  selectItems config (SelectPiece.ofTokens tokens)

end Rule

end HexadQuery
