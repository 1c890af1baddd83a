import DeviceCatalog.Json.Token

/-!
# JSON values

A JSON value is a tree; object members keep their order and their repetitions. Values are put
together from tokens by an automaton with the open arrays and objects on a stack, so nesting of any
depth is read.
-/

namespace DeviceCatalog

/-- A JSON value. -/
inductive Json where
  | null
  | bool (value : Bool)
  | number (lexeme : Bytes)
  | text (lexeme : Json.Lexeme)
  | array (elements : List Json)
  | object (members : List (Json.Lexeme × Json))

namespace Json

/-- The value that a word names. -/
def ofWord? (letters : Bytes) : Option Json :=
  if letters = Bytes.ofText "null" then some .null
  else if letters = Bytes.ofText "true" then some (.bool true)
  else if letters = Bytes.ofText "false" then some (.bool false)
  else if Number.isWellFormed letters then some (.number letters)
  else none

/-- An open array or object, with what it holds so far in reverse. -/
inductive Frame where
  | array (elements : List Json)
  | object (members : List (Lexeme × Json)) (key : Lexeme)

/-- What the next token is read as. -/
inductive Assembly where
  /-- A value must come. -/
  | value (frames : List Frame)
  /-- A value, or the end of the array just opened. -/
  | firstElement (frames : List Frame)
  /-- A key, or the end of the object just opened. -/
  | firstKey (frames : List Frame)
  /-- A key of an object that has members. -/
  | nextKey (frames : List Frame) (members : List (Lexeme × Json))
  /-- The colon after a key. -/
  | afterKey (frames : List Frame) (members : List (Lexeme × Json)) (key : Lexeme)
  /-- A value is complete; it may be followed by what its surroundings allow. -/
  | complete (frames : List Frame) (value : Json)

namespace Assembly

/-- Takes the first token of a value. -/
def stepValue (frames : List Frame) : Token → Option Assembly
  | .openBrace => some (firstKey frames)
  | .openBracket => some (firstElement frames)
  | .word letters => (ofWord? letters).map (complete frames)
  | .text lexeme => some (complete frames (.text lexeme))
  | _ => none

/-- Takes one token. -/
def step : Assembly → Token → Option Assembly
  | value frames, token => stepValue frames token
  | firstElement frames, .closeBracket => some (complete frames (.array []))
  | firstElement frames, token => stepValue (.array [] :: frames) token
  | firstKey frames, .closeBrace => some (complete frames (.object []))
  | firstKey frames, .text key => some (afterKey frames [] key)
  | nextKey frames members, .text key => some (afterKey frames members key)
  | afterKey frames members key, .colon => some (value (.object members key :: frames))
  | complete (.array elements :: frames) last, .comma =>
    some (value (.array (last :: elements) :: frames))
  | complete (.array elements :: frames) last, .closeBracket =>
    some (complete frames (.array (last :: elements).reverse))
  | complete (.object members key :: frames) last, .comma =>
    some (nextKey frames ((key, last) :: members))
  | complete (.object members key :: frames) last, .closeBrace =>
    some (complete frames (.object ((key, last) :: members).reverse))
  | _, _ => none

/-- The value that the tokens make up, when they end here. -/
def finish : Assembly → Option Json
  | complete [] whole => some whole
  | _ => none

end Assembly

/-- The value that a sequence of tokens makes up. -/
def ofTokens? (tokens : List Token) : Option Json :=
  tokens.foldlM Assembly.step (.value []) >>= Assembly.finish

/-- The value that a text holds. -/
def read? (text : Bytes) : Option Json := Token.read? text >>= ofTokens?

mutual

/-- The tokens of a value. -/
def tokens : Json → List Token
  | null => [.word (Bytes.ofText "null")]
  | bool true => [.word (Bytes.ofText "true")]
  | bool false => [.word (Bytes.ofText "false")]
  | number lexeme => [.word lexeme]
  | text lexeme => [.text lexeme]
  | array elements => .openBracket :: elementTokens elements ++ [.closeBracket]
  | object members => .openBrace :: memberTokens members ++ [.closeBrace]

/-- The tokens of the elements of an array. -/
def elementTokens : List Json → List Token
  | [] => []
  | [last] => last.tokens
  | element :: next :: rest => element.tokens ++ .comma :: elementTokens (next :: rest)

/-- The tokens of the members of an object. -/
def memberTokens : List (Lexeme × Json) → List Token
  | [] => []
  | [(key, last)] => .text key :: .colon :: last.tokens
  | (key, value) :: next :: rest =>
    .text key :: .colon :: value.tokens ++ .comma :: memberTokens (next :: rest)

end

/-- The text of a value, without blanks. -/
def write (value : Json) : Bytes := value.tokens.flatMap Token.write

end Json

end DeviceCatalog
