import Relevance.Analysis.Token

set_option autoImplicit false

namespace Relevance

inductive Query where
  | matchNone
  | term (field : String) (wanted : Term) (boost : Float32)
  /-- The tokens of a phrase at their positions, and how far they may be out of place. -/
  | phrase (field : String) (tokens : List Token) (slop : UInt32) (boost : Float32)
  | conjunction (queries : List Query)
  | disjunction (queries : List Query)

namespace Query

def ofTerm (field : String) (wanted : Term) : Query :=
  .term field wanted 1.0

/-- A query for tokens in their order: one token is a term, and no tokens match nothing. -/
def ofTokens (field : String) (tokens : List Token) (slop : UInt32) : Query :=
  match tokens with
  | [] => .matchNone
  | [token] => .ofTerm field token.term
  | tokens => .phrase field tokens slop 1.0

/-- A query for all of several: of one query that query, and of none nothing. -/
def all : List Query → Query
  | [] => .matchNone
  | [query] => query
  | queries => .conjunction queries

/-- A query for any of several: of one query that query, and of none nothing. -/
def any : List Query → Query
  | [] => .matchNone
  | [query] => query
  | queries => .disjunction queries

mutual

def scaleBoost (factor : Float32) : Query → Query
  | .matchNone => .matchNone
  | .term field wanted boost => .term field wanted (boost * factor)
  | .phrase field tokens slop boost => .phrase field tokens slop (boost * factor)
  | .conjunction queries => .conjunction (scaleBoostAll factor queries)
  | .disjunction queries => .disjunction (scaleBoostAll factor queries)

def scaleBoostAll (factor : Float32) : List Query → List Query
  | [] => []
  | query :: rest => query.scaleBoost factor :: scaleBoostAll factor rest

end

/-- The query with a boost on top of those it has; a factor of one changes nothing. -/
def boost (query : Query) (factor : Float32) : Query :=
  if factor == 1.0 then query else query.scaleBoost factor

mutual

/-- The query as it is written. Required clauses have a plus sign in front. -/
def text : Query → String
  | .matchNone => "MatchNone"
  | .term field wanted _ => field ++ ":" ++ wanted.display
  | .phrase field tokens slop _ =>
    field ++ ":\"" ++ " ".intercalate (tokens.map (·.term.display)) ++ "\"" ++
      (if slop = 0 then "" else "~" ++ toString slop.toNat)
  | .conjunction queries => "(" ++ " ".intercalate (textAll "+" queries) ++ ")"
  | .disjunction queries => "(" ++ " ".intercalate (textAll "" queries) ++ ")"

def textAll (mark : String) : List Query → List String
  | [] => []
  | query :: rest => (mark ++ query.text) :: textAll mark rest

end

end Query

end Relevance
