import ViewWeave.Source.Embedded

/-!
# Bundled views

A small view tree to try the program with.
-/

namespace ViewWeave.Demo

def lines (ls : List String) : String := String.join (ls.map (· ++ "\n"))

def baseLayout : String := lines
  ["<!doctype html>",
   "<html lang=\"en\">",
   "<head>",
   "  <meta charset=\"utf-8\">",
   "  <title>\x7b\x7b title \x7d\x7d | \x7b\x7b app_name() \x7d\x7d</title>",
   "  <link rel=\"stylesheet\" href=\"/assets/app.css?v=\x7b\x7b cache_buster() \x7d\x7d\">",
   "</head>",
   "<body>",
   "  <header><a href=\"/\">\x7b\x7b app_name() \x7d\x7d</a></header>",
   "  <main>"]

def plainLayout : String := lines
  ["<!doctype html>",
   "<html lang=\"en\">",
   "<head><meta charset=\"utf-8\"><title>\x7b\x7b title \x7d\x7d</title></head>",
   "<body>",
   "  <main>"]

def indexPage : String := lines
  ["    \x7b% set total = data.total | default(value=0) -%\x7d",
   "    <h1>\x7b\x7b title \x7d\x7d</h1>",
   "    <p>\x7b\x7b data.message | default(value=\"Hello, World!\") \x7d\x7d</p>",
   "    <p>2 + 3 = \x7b\x7b add(a=2, b=3) \x7d\x7d</p>",
   "    <p>Total: \x7b\x7b dollar_format(amount=total) \x7d\x7d</p>"]

def errorPage : String := lines
  ["    <h1>\x7b\x7b title \x7d\x7d</h1>",
   "    <p class=\"error\">\x7b\x7b data.code | default(value=500) \x7d\x7d: " ++
     "\x7b\x7b data.message | default(value=\"Something went wrong\") \x7d\x7d</p>"]

def loginPage : String := lines
  ["    <h1>\x7b\x7b title \x7d\x7d</h1>",
   "    <form method=\"post\" action=\"/auth/login\">",
   "      <input type=\"email\" name=\"email\" placeholder=\"Email\">",
   "      <input type=\"password\" name=\"password\" placeholder=\"Password\">",
   "      <button type=\"submit\">Log in</button>",
   "    </form>",
   "    <p><a href=\"/auth/signup\">Create an account</a></p>"]

def signupPage : String := lines
  ["    <h1>\x7b\x7b title \x7d\x7d</h1>",
   "    <form method=\"post\" action=\"/auth/signup\">",
   "      <input type=\"email\" name=\"email\" placeholder=\"Email\">",
   "      <input type=\"password\" name=\"password\" placeholder=\"Password\">",
   "      <button type=\"submit\">Sign up</button>",
   "    </form>",
   "    <p><a href=\"/auth/login\">Already registered?</a></p>"]

def footer : String := lines
  ["  </main>",
   "  <footer>&copy; \x7b\x7b app_name() \x7d\x7d</footer>"]

def scripts : String := lines
  ["  <script src=\"/assets/app.js?v=\x7b\x7b cache_buster() \x7d\x7d\"></script>",
   "</body>",
   "</html>"]

def views : EmbeddedSource := .ofFiles
  [("layouts/base.html.tera", baseLayout),
   ("layouts/plain.html.tera", plainLayout),
   ("pages/index.html.tera", indexPage),
   ("pages/error.html.tera", errorPage),
   ("pages/auth/login.html.tera", loginPage),
   ("pages/auth/signup.html.tera", signupPage),
   ("shared/footer.html.tera", footer),
   ("shared/scripts.html.tera", scripts)]

end ViewWeave.Demo
