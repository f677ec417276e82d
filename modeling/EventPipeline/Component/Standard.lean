import EventPipeline.Component

/-!
# Standard modules

Modules that are there beside those of the program. Only their names are known, and which of them
hold further modules; what those are called is not.
-/

namespace EventPipeline.Component

/-- The names in some lines. -/
def namesOfLines (lines : List String) : List Text :=
  lines.flatMap fun line => line.toList.splitOn ' '

/-- The standard modules that hold further modules. -/
def standardPackages : List Text := namesOfLines [
  "asyncio collections concurrent ctypes curses dbm distutils email encodings ensurepip html http",
  "idlelib importlib json lib2to3 logging multiprocessing pydoc_data re sqlite3 tkinter",
  "tomllib unittest urllib venv wsgiref xml xmlrpc zoneinfo pydantic ply graphviz"]

/-- The standard modules that hold no further ones. -/
def standardModules : List Text := namesOfLines [
  "__future__ abc aifc argparse array ast asynchat asyncore atexit audioop base64 bdb binascii",
  "bisect builtins bz2 cProfile calendar cgi cgitb chunk cmath cmd code codecs codeop colorsys",
  "compileall configparser contextlib contextvars copy copyreg crypt csv dataclasses datetime",
  "decimal difflib dis doctest enum errno faulthandler fcntl filecmp fileinput fnmatch fractions",
  "ftplib functools gc genericpath getopt getpass gettext glob graphlib grp gzip hashlib heapq",
  "hmac imaplib imghdr imp inspect io ipaddress itertools keyword linecache locale lzma mailbox",
  "mailcap marshal math mimetypes mmap modulefinder netrc nis nntplib ntpath nturl2path numbers",
  "opcode operator optparse os os.path pathlib pdb pickle pickletools pipes pkgutil platform",
  "plistlib poplib posix posixpath pprint profile pstats pty pwd py_compile pyclbr pydoc pyexpat",
  "queue quopri random readline reprlib resource rlcompleter runpy sched secrets select",
  "selectors shelve shlex shutil signal site smtpd smtplib sndhdr socket socketserver spwd",
  "sre_compile sre_constants sre_parse ssl stat statistics string stringprep struct subprocess",
  "sunau symtable sys sysconfig syslog tabnanny tarfile telnetlib tempfile termios textwrap",
  "threading time timeit token tokenize trace traceback tracemalloc tty turtle types typing",
  "unicodedata uu uuid warnings wave weakref webbrowser xdrlib zipapp zipfile zipimport zlib"]

/-- Checks that there is a module of a full name. -/
def checkModule (moduleName : Text) : Except FindError Unit :=
  match moduleName.splitOn '.' with
  | first :: further =>
    if standardPackages.contains first || standardModules.contains moduleName then .ok ()
    else if standardModules.contains first then
      .error (.noPackage (Text.join ['.'] (first :: further.take 1)) first)
    else (findModule moduleName).map fun _ => ()
  | [] => .error .emptyModule

end EventPipeline.Component
