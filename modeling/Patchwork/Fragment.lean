namespace Patchwork

inductive FragmentError where
  | missingArguments (expected found : Nat)
  | invalidArgument (index : Nat) (value : String)
  | emptyRange (first last : Nat)
  | rangeTooLarge (first last limit : Nat)
  | custom (message : String)
  deriving DecidableEq

def FragmentError.message : FragmentError → String
  | missingArguments expected found =>
    s!"expected at least {expected} arguments, found {found}"
  | invalidArgument index value => s!"invalid argument {index}: '" ++ value ++ "'"
  | emptyRange first last => s!"empty range {first}..={last}"
  | rangeTooLarge first last limit => s!"range {first}..={last} exceeds {limit} values"
  | custom message => message

/-- A function that a call can name: the built-in one, or any other. -/
inductive Fragment where
  | range
  | custom (run : List String → Except FragmentError String)

end Patchwork
