-- SUMMARY: Tokens over any set of kinds, and failures over any set of causes.
import ExprLexer.Location

/-!
# Tokens

A token is a kind, a piece of text and the place where the piece starts. The
kinds and the causes of failure belong to a language; all that a scanner asks
of them is a `Vocabulary`, since a failure is also handed out as a token.
-/

namespace ExprLexer

/-- A piece of a text, classified and located. -/
structure Token (κ : Type) where
  kind : κ
  /-- The piece of the text as it stands there, or the report of a failure. -/
  value : String
  location : Location
deriving DecidableEq, Repr

/-- Why a scan ended early, and where the token starts that could not be read. -/
structure Failure (ε : Type) where
  cause : ε
  location : Location
deriving DecidableEq, Repr

/-- The kinds `κ` of a language have one for failures, and its causes of failure `ε` can be
    put into words. -/
class Vocabulary (κ : Type) (ε : outParam Type) where
  errorKind : κ
  describe : ε → String

/-- The token that reports a failure. -/
def Failure.toToken {κ ε : Type} [vocabulary : Vocabulary κ ε] (failure : Failure ε) : Token κ :=
  ⟨vocabulary.errorKind, vocabulary.describe failure.cause, failure.location⟩

end ExprLexer
