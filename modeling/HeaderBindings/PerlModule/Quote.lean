import HeaderBindings.Text.Basic

/-!
# Quoted literals

A text is quoted as `q` and braces. Braces inside may stand as they are when they are balanced and
there is no backslash; otherwise every brace and every backslash is written with a backslash.
-/
namespace HeaderBindings.PerlModule

def openBrace : Char := '\x7b'

def closeBrace : Char := '\x7d'

/-- Whether every closing brace has an opening one before it and none is left over, when so many are
open at the start. -/
def balanced : Nat → Text → Bool
  | depth, [] => depth = 0
  | depth, c :: r =>
    if c = openBrace then balanced (depth + 1) r
    else if c = closeBrace then
      match depth with
      | 0 => false
      | depth + 1 => balanced depth r
    else balanced depth r

def escape : Text → Text
  | [] => []
  | c :: r =>
    if c = '\\' || c = openBrace || c = closeBrace then '\\' :: c :: escape r else c :: escape r

/-- What stands between the braces. -/
def quotedBody (t : Text) : Text := if !t.contains '\\' && balanced 0 t then t else escape t

def quote (t : Text) : Text := 'q' :: openBrace :: quotedBody t ++ [closeBrace]

end HeaderBindings.PerlModule
