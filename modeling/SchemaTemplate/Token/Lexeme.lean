import SchemaTemplate.Failure
import SchemaTemplate.Token.Scan

/-!
The tokens of a script with the characters that they are written with and their places.
`Lexeme.ofText` splits a whole script into lexemes. Their sources, put together, are the script.
-/

set_option autoImplicit false
set_option relaxedAutoImplicit false

namespace SchemaTemplate

/-- A token as it occurs in a script. -/
structure Lexeme where
  token : Token
  /-- The characters that the token is written with. -/
  source : List Char
  /-- The place of the first of them. -/
  start : Position
  deriving DecidableEq, Repr

namespace Lexeme

/-- The place behind a lexeme. -/
def stop (lexeme : Lexeme) : Position := lexeme.start.past lexeme.source

/-- Splits the text from a place on, behind the lexemes `done` (reversed). -/
def ofTextAfter (done : List Lexeme) (position : Position) :
    List Char → Except Failure (List Lexeme)
  | [] => .ok done.reverse
  | first :: rest =>
    match Token.scan first rest with
    | .error fault =>
      .error (.malformed (position.past ((first :: rest).take fault.offset)) fault.cause.message)
    | .ok (token, extra) =>
      let lexeme : Lexeme := ⟨token, first :: rest.take extra, position⟩
      ofTextAfter (lexeme :: done) lexeme.stop (rest.drop extra)
termination_by text => text.length
decreasing_by simp only [List.length_drop, List.length_cons]; omega

/-- Splits a script into its lexemes, or fails at the first place where there is no token. -/
def ofText (script : String) : Except Failure (List Lexeme) :=
  ofTextAfter [] Position.start script.toList

/-- The sources of the lexemes behind those that are done make up the text. -/
theorem ofTextAfter_sources {done lexemes : List Lexeme} {position : Position} {text : List Char}
    (split : ofTextAfter done position text = .ok lexemes) :
    lexemes.flatMap source = done.reverse.flatMap source ++ text := by
  fun_induction ofTextAfter done position text with
  | case1 done position =>
    obtain rfl := Except.ok.inj split
    simp
  | case2 => simp at split
  | case3 done position first rest token extra scanned lexeme ih =>
    rw [ih split]
    simp [lexeme]

/-- Nothing of a script is lost between its lexemes. -/
theorem ofText_sources {script : String} {lexemes : List Lexeme}
    (split : ofText script = .ok lexemes) : lexemes.flatMap source = script.toList := by
  simpa using ofTextAfter_sources split

end Lexeme

end SchemaTemplate
