-- SUMMARY: Templates that match text patterns: fixed text by position or LIKE, regular expressions by operator, and the choice between them.
import SqlDialects.Rule.Basic

/-!
# Patterns

A pattern that is known when translating and holds no regular-expression
character is matched as fixed text, and so is one marked as fixed. Fixed text at
the start or end of a text is matched by `LIKE` with its wildcards escaped; every
other pattern is an operand of the backend's regular-expression operator,
anchored where it has to be.
-/

namespace SqlDialects

/-- The characters that mean something in a regular expression. -/
def regexMetacharacters : List Char := ".^$*+?()[]\x7b\x7d|\\".toList

/-- A pattern to be matched as fixed text: a text without metacharacters, or one
    marked as fixed. -/
def Value.isFixedPattern : Value → Bool
  | .fixed _ => true
  | v =>
    v.isStatic && match v.staticValue with
      | .scalar (.text s) => !s.toList.any regexMetacharacters.contains
      | _ => false

/-- Escape the wildcards of `LIKE` and the escape character itself. -/
def escapeLikeList : List Char → List Char
  | [] => []
  | c :: cs =>
    if c = '\\' ∨ c = '%' ∨ c = '_' then '\\' :: c :: escapeLikeList cs
    else c :: escapeLikeList cs

def escapeLike (s : String) : String := String.ofList (escapeLikeList s.toList)

/-- Escape the wildcards in a value in which a text can be replaced. -/
def Value.escapedLike (v : Value) : Except Error String := do
  return escapeLike (← v.asReplaceable)

/-- A pattern without its mark. -/
def Value.unmarked : Value → Value
  | .fixed pattern => pattern
  | v => v

/-- Where in a text a pattern is sought. Every word but `detect` and `start`
    means the end for fixed text. -/
inductive PatternPlace where
  | anywhere
  | start
  | stop
  | unanchored (word : String)
  deriving DecidableEq

namespace PatternPlace

def text : PatternPlace → String
  | .anywhere => "detect"
  | .start => "start"
  | .stop => "end"
  | .unanchored word => word

/-- The place that a value names: the first of some whose word it is found equal to. -/
def ofValue (places : List PatternPlace) (v : Value) : PatternPlace :=
  (places.find? fun place => v.equalsText place.text).getD (.unanchored v.bareText)

/-- Where fixed text is sought. -/
def ofFixed : Value → PatternPlace := ofValue [.anywhere, .start, .stop]

/-- Where a regular expression is anchored. -/
def ofRegex : Value → PatternPlace := ofValue [.start, .stop, .anywhere]

end PatternPlace

-- ---------------------------------------------------------------------------
-- Fixed text
-- ---------------------------------------------------------------------------

/-- The text `LIKE` matches for fixed text at a place. -/
def likePattern (place : PatternPlace) (s : String) : String :=
  if place = .start then escapeLike s ++ "%" else "%" ++ escapeLike s

/-- Match fixed text: by position anywhere and for expressions, by `LIKE` for a
    pattern that is known when translating and not too long to be written. -/
def matchFixed (place : PatternPlace) (string pattern : Value) (negated : Bool) :
    Except Error Expr :=
  let string := string.toExpr
  let pattern := pattern.unmarked
  if place = .anywhere then
    .ok (.binaryOf (if negated then "=" else ">") (.sql (.callOf "STRPOS" [.sql string, pattern]))
      (.whole 0))
  else if pattern.isStatic then do
    let text ← pattern.staticValue.asBareText
    return .binary (if negated then "NOT LIKE" else "LIKE") string
      (.literal (.text (likePattern place text)))
  else
    let comparison := if negated then "!=" else "="
    if place = .start then
      .ok (.binaryOf comparison (.sql (.callOf "STRPOS" [.sql string, pattern])) (.whole 1))
    else
      .ok (.binary comparison
        (.callOf "RIGHT" [.sql string, .sql (.callOf "LENGTH" [pattern])]) pattern.toExpr)

-- ---------------------------------------------------------------------------
-- Regular expressions
-- ---------------------------------------------------------------------------

/-- A pattern between two texts: one literal, or a concatenation in SQL. -/
def anchored (before : String) (pattern : Expr) (after : String) : Except Error Expr :=
  match pattern with
  | .literal v => do
    let text ← v.asBareText
    return .literal (.text (before ++ text ++ after))
  | pattern =>
    .ok (.paren (.binary "||" (.binary "||" (.literal (.text before)) pattern)
      (.literal (.text after))))

/-- A pattern with anchors at the ends of the text that it is sought at. -/
def anchoredAt (place : PatternPlace) (pattern : Expr) : Except Error Expr :=
  match place with
  | .start => anchored "^(?:" pattern ")"
  | .stop => anchored "(?:" pattern ")$"
  | _ => .ok pattern

/-- Match a regular expression by an operator. -/
def matchRegex (place : PatternPlace) (operator : String) (string pattern : Value)
    (negated : Bool) : Except Error Expr := do
  let pattern ← anchoredAt place pattern.toExpr
  let e := Expr.binary operator string.toExpr pattern
  return if negated then .negate (.sql e) else e

/-- Match a pattern: as fixed text where it is known to be fixed, and as a regular expression
    otherwise. -/
def matchPattern (place : PatternPlace) (string pattern : Value) (negated : Bool) :
    Except Error Expr :=
  if pattern.isFixedPattern then matchFixed place string pattern negated
  else matchRegex place "~" string pattern negated

section

variable {place : PatternPlace} {string pattern : Value} {negated : Bool} {e : Error}

theorem error_of_matchFixed (h : matchFixed place string pattern negated = .error e) :
    e = .lapse .tooManyDigits := by
  unfold matchFixed at h
  dsimp only at h
  split at h
  · cases h
  · split at h
    · exact Value.error_of_asBareText h
    · split at h
      all_goals cases h

theorem error_of_anchored {before after : String} {pattern : Expr}
    (h : anchored before pattern after = .error e) : e = .lapse .tooManyDigits := by
  unfold anchored at h
  split at h
  · exact Value.error_of_asBareText h
  · cases h

theorem error_of_matchRegex {operator : String}
    (h : matchRegex place operator string pattern negated = .error e) :
    e = .lapse .tooManyDigits := by
  cases hanchored : anchoredAt place pattern.toExpr with
  | ok =>
    rw [matchRegex, hanchored] at h
    cases h
  | error =>
    rw [matchRegex, hanchored] at h
    cases h
    unfold anchoredAt at hanchored
    split at hanchored
    · exact error_of_anchored hanchored
    · exact error_of_anchored hanchored
    · cases hanchored

/-- A match fails only by a pattern that is too long to be written. -/
theorem error_of_matchPattern (h : matchPattern place string pattern negated = .error e) :
    e = .lapse .tooManyDigits := by
  unfold matchPattern at h
  split at h
  · exact error_of_matchFixed h
  · exact error_of_matchRegex h

end

-- ---------------------------------------------------------------------------
-- Templates
-- ---------------------------------------------------------------------------

def patternSignature (negation : String) : Signature :=
  [.required "string", .required "pattern", .optional negation (.bool false)]

/-- A template over a text, a pattern and whether the answer is negated. -/
def Template.pattern (make : Value → Value → Bool → Except Error Expr) : Template :=
  ⟨patternSignature "negate_result", fun _ args => do
    let e ← make (args.value "string") (args.value "pattern")
      (args.value "negate_result").isTruthy
    return .sql e⟩

def Template.fixedPattern (place : PatternPlace) : Template :=
  .pattern (matchFixed place)

def Template.regexPattern (place : PatternPlace) (operator : String) : Template :=
  .pattern (matchRegex place operator)

/-- The rule that matches a pattern as fixed text or as a regular expression, by
    its static shape. -/
def Rule.patternSwitch (place : PatternPlace) (fixed regex : Template) : Rule where
  name := "str_" ++ place.text
  template := ⟨patternSignature "negate", fun s args =>
    let pattern := args.value "pattern"
    (if pattern.isFixedPattern then fixed else regex).call s
      [args.value "string", pattern, args.value "negate"]⟩
  validators := [("negate", [.boolean])]

/-- The switch between the two templates of its own place. -/
def Rule.patternMatch (place : PatternPlace) : Rule :=
  .patternSwitch place (.fixedPattern place) (.regexPattern place "~")

theorem Rule.expand_patternMatch_eq (place : PatternPlace) (s : Setting) (args : Arguments) :
    (Rule.patternMatch place).template.expand s args = do
      return .sql (← matchPattern place (args.value "string") (args.value "pattern")
        (args.value "negate").isTruthy) := by
  dsimp only [patternMatch, patternSwitch]
  rw [matchPattern]
  split
  · rfl
  · rfl

end SqlDialects
