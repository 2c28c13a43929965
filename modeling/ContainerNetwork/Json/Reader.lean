import ContainerNetwork.Json.Token

/-!
# Reading JSON values

The reader takes one token at a time.  The containers that are still open are frames of a list, so
that no depth of nesting is too great for it.
-/

namespace ContainerNetwork

/-- An open container with what it holds so far, last first. -/
inductive Frame where
  | array (items : List Json)
  | object (members : List (Option String × Json)) (name : Option String)

/-- What a reader has read, and with it what may come next. -/
inductive Reader where
  /-- A value comes next. -/
  | value (frames : List Frame)
  /-- An array was opened: its first item or its end comes next. -/
  | firstItem (frames : List Frame)
  /-- An object was opened: its first name or its end comes next. -/
  | firstName (frames : List Frame)
  /-- Another name comes next. -/
  | name (members : List (Option String × Json)) (frames : List Frame)
  /-- The colon after a name comes next. -/
  | colon (members : List (Option String × Json)) (name : Option String) (frames : List Frame)
  /-- A value is complete. -/
  | done (value : Json) (frames : List Frame)

namespace Reader

/-- Reads a token where a value has to start. -/
def open? (frames : List Frame) : Token → Option Reader
  | .scalar json => some (.done json frames)
  | .openArray => some (.firstItem frames)
  | .openObject => some (.firstName frames)
  | _ => none

def step : Reader → Token → Option Reader
  | .value frames, token => open? frames token
  | .firstItem frames, .closeArray => some (.done (.array []) frames)
  | .firstItem frames, token => open? (.array [] :: frames) token
  | .firstName frames, .closeObject => some (.done (.object []) frames)
  | .firstName frames, .scalar (.string key) => some (.colon [] key frames)
  | .name members frames, .scalar (.string key) => some (.colon members key frames)
  | .colon members key frames, .colon => some (.value (.object members key :: frames))
  | .done json (.array items :: frames), .comma => some (.value (.array (json :: items) :: frames))
  | .done json (.array items :: frames), .closeArray =>
      some (.done (.array (json :: items).reverse) frames)
  | .done json (.object members key :: frames), .comma =>
      some (.name ((key, json) :: members) frames)
  | .done json (.object members key :: frames), .closeObject =>
      some (.done (.object ((key, json) :: members).reverse) frames)
  | _, _ => none

/-- The value, when it is complete and no container is open. -/
def finish : Reader → Option Json
  | .done json [] => some json
  | _ => none

end Reader

namespace Json

/-- The value that a list of tokens spells. -/
def ofTokens? (tokens : List Token) : Option Json :=
  tokens.foldlM Reader.step (.value []) >>= Reader.finish

/-- The value that a text spells, with nothing but blanks around it. -/
def parse? (text : String) : Option Json :=
  Token.scan? text.toList >>= ofTokens?

end Json

end ContainerNetwork
