import MapAudit.Script.Streams

/-! # Options of builtin commands

    Arguments that begin with a dash are options, up to the first one that does
    not, or up to two dashes. Some options take a value: the rest of the argument
    or the next one.
-/

namespace MapAudit.Script

/-- **Options**: the letters that were given, each with its value, and the
    operands after them. -/
structure Options where
  /-- The options. -/
  given : List (Char × Raw)
  /-- The operands. -/
  operands : List Raw

namespace Options

/-- Whether an option was given. -/
def has (o : Options) (letter : Char) : Bool :=
  (o.given.lookup letter).isSome

/-- The value of an option, which is the last one given. -/
def value? (o : Options) (letter : Char) : Option Raw :=
  o.given.reverse.lookup letter

end Options

namespace Procedure

/-- How a builtin command is called. -/
def usageOf (name : Raw) : Raw :=
  match String.ofList name with
  | "cd" => "cd [-L|[-P [-e]] [-@]] [dir]"
  | "pwd" => "pwd [-LP]"
  | "read" => "read [-ers] [-a array] [-d delim] [-i text] [-n nchars] [-N nchars] "
      ++ "[-p prompt] [-t timeout] [-u fd] [name ...]"
  | "export" => "export [-fn] [name[=value] ...] or export -p"
  | "readonly" => "readonly [-aAf] [name[=value] ...] or readonly -p"
  | "unset" => "unset [-f] [-v] [-n] [name ...]"
  | "local" => "local [option] name[=value] ..."
  | "declare" => "declare [-aAfFgiIlnrtux] [name[=value] ...] or declare -p [-aAfFilnrtux] [name ...]"
  | "typeset" => "typeset [-aAfFgiIlnrtux] name[=value] ... or typeset -p [-aAfFilnrtux] [name ...]"
  | "set" => "set [-abefhkmnptuvxBCEHPT] [-o option-name] [--] [-] [arg ...]"
  | "shift" => "shift [n]"
  | "trap" => "trap [-lp] [[arg] signal_spec ...]"
  | "kill" =>
    "kill [-s sigspec | -n signum | -sigspec] pid | jobspec ... or kill -l [sigspec]"
  | "wait" => "wait [-fn] [-p var] [id ...]"
  | "umask" => "umask [-p] [-S] [mode]"
  | "ulimit" => "ulimit [-SHabcdefiklmnpqrstuvxPRT] [limit]"
  | "type" => "type [-afptP] name [name ...]"
  | "builtin" => "builtin [shell-builtin [arg ...]]"
  | "disown" => "disown [-h] [-ar] [jobspec ... | pid ...]"
  | "suspend" => "suspend [-f]"
  | "command" => "command [-pVv] command [arg ...]"
  | "hash" => "hash [-lr] [-p pathname] [-dt] [name ...]"
  | "alias" => "alias [-p] [name[=value] ... ]"
  | "unalias" => "unalias [-a] name [name ...]"
  | "getopts" => "getopts optstring name [arg ...]"
  | "printf" => "printf [-v var] format [arguments]"
  | "eval" => "eval [arg ...]"
  | "exec" => "exec [-cl] [-a name] [command [argument ...]] [redirection ...]"
  | "." => ". filename [arguments]"
  | "source" => "source filename [arguments]"
  | "pushd" => "pushd [-n] [+N | -N | dir]"
  | "popd" => "popd [-n] [+N | -N]"
  | "dirs" => "dirs [-clpv] [+N] [-N]"
  | "shopt" => "shopt [-pqsu] [-o] [optname ...]"
  | "mapfile" => "mapfile [-d delim] [-n count] [-O origin] [-s count] [-t] [-u fd] "
      ++ "[-C callback] [-c quantum] [array]"
  | "readarray" => "readarray [-d delim] [-n count] [-O origin] [-s count] [-t] [-u fd] "
      ++ "[-C callback] [-c quantum] [array]"
  | _ => String.ofList name

/-- Tells how the builtin command is called. -/
def tellUsage : Procedure Unit := do
  let name := ((← get).builtin).getD []
  complain (name ++ ": usage: " ++ usageOf name ++ ['\n'])

/-- Refuses an option. -/
def refuseOption {α : Type} (letter : Char) : Procedure α := do
  if ← isRich then
    warn (['-', letter] ++ ": invalid option")
    tellUsage
    throw (.fault 2)
  else refuse ("Illegal option -" ++ [letter])

/-- Reads the options in one argument. The answer has the operands that are
    left. -/
def optionsIn (letters valued : List Char) : Raw → List Raw →
    Procedure (List (Char × Raw) × List Raw)
  | [], rest => return ([], rest)
  | c :: more, rest => do
    if valued.contains c then
      match more, rest with
      | [], value :: rest => return ([(c, value)], rest)
      | [], [] =>
        if ← isRich then
          warn (['-', c] ++ ": option requires an argument")
          tellUsage
          throw (.fault 2)
        else refuse ("No arg for -" ++ [c] ++ " option")
      | value, rest => return ([(c, value)], rest)
    else if letters.contains c then
      let (found, rest) ← optionsIn letters valued more rest
      return ((c, []) :: found, rest)
    else refuseOption c

/-- Reads the options of a builtin command, at most `n` arguments with them. -/
def readOptionsUpTo (letters valued : List Char) : (n : Nat) → List Raw → Procedure Options
  | 0, operands => return { given := [], operands }
  | _ + 1, ['-', '-'] :: operands => return { given := [], operands }
  | n + 1, ('-' :: c :: more) :: rest => do
    let (found, rest) ← optionsIn letters valued (c :: more) rest
    let others ← readOptionsUpTo letters valued n rest
    return { others with given := found ++ others.given }
  | _ + 1, operands => return { given := [], operands }

/-- Reads the options of a builtin command. -/
def readOptions (letters valued : String) (arguments : List Raw) : Procedure Options :=
  readOptionsUpTo letters.toList valued.toList arguments.length arguments

end Procedure

end MapAudit.Script
