import ModuleDocs.Record

/-!
# Pages

The HTML page of a module. Names, types and comments are escaped, so that they show as they are.
-/

namespace ModuleDocs

namespace Page

def escapePoint (c : CodePoint) : Text :=
  if c = CodePoint.ofChar '&' then "&amp;"
  else if c = CodePoint.ofChar '<' then "&lt;"
  else if c = CodePoint.ofChar '>' then "&gt;"
  else if c = CodePoint.ofChar '\'' then "&#39;"
  else if c = CodePoint.ofChar '"' then "&#34;"
  else [c]

def escape (t : Text) : Text := t.flatMap escapePoint

/-- The paragraph with a comment; an empty comment has none. -/
def commentBlock (comment : Text) : Text :=
  if comment.isEmpty then [] else "<p class=\"comment\">" ++ escape comment ++ "</p>\n"

def typeBlock (f : Field) : Text :=
  "<div class=\"field\" id=\"type." ++ escape f.name ++ "\">\n" ++
  "<h3><code>" ++ escape f.name ++ "</code></h3>\n" ++
  "<pre><code>" ++ escape f.type ++ "</code></pre>\n" ++
  commentBlock f.comment ++ "</div>\n"

def valueBlock (f : Field) : Text :=
  "<div class=\"field\" id=\"value." ++ escape f.name ++ "\">\n" ++
  "<h3><code>" ++ escape f.name ++ " : " ++ escape f.type ++ "</code></h3>\n" ++
  commentBlock f.comment ++ "</div>\n"

def styleSheet : String :=
  "body \x7b font-family: sans-serif; max-width: 960px; margin: 2em auto; \x7d\n" ++
  "code \x7b font-family: monospace; \x7d\n" ++
  ".field \x7b margin: 1em 0; padding-left: 1em; border-left: 3px solid #ddd; \x7d\n" ++
  ".comment \x7b white-space: pre-wrap; margin: 0.3em 0 0 0; \x7d\n"

def head (name : Text) : Text :=
  "<!DOCTYPE html>\n<html lang=\"en\">\n<head>\n<meta charset=\"utf-8\">\n" ++
  "<title>" ++ escape name ++ "</title>\n<style>\n" ++ styleSheet ++ "</style>\n</head>\n"

def render (m : Module) : Text :=
  head m.name ++ "<body>\n<h1>" ++ escape m.name ++ "</h1>\n\n<h2>Types</h2>\n" ++
  m.record.types.flatMap typeBlock ++ "\n<h2>Values</h2>\n" ++
  m.record.values.flatMap valueBlock ++ "</body>\n</html>\n"

end Page

end ModuleDocs
