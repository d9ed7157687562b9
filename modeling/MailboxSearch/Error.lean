namespace MailboxSearch

inductive Fault
  | notFound
  | isDirectory
  | notDirectory
  | nameTooLong
  | invalidText
  | invalidPath
  | other (text : String)
  deriving DecidableEq

def Fault.message : Fault → String
  | notFound => "No such file or directory"
  | isDirectory => "Is a directory"
  | notDirectory => "Not a directory"
  | nameTooLong => "File name too long"
  | invalidText => "stream did not contain valid UTF-8"
  | invalidPath => "file name contained an unexpected NUL byte"
  | other text => text

/-- Whether a fault says that there is no file, and not that a file cannot be read. -/
def Fault.isAbsence : Fault → Bool
  | notFound => true
  | isDirectory => true
  | notDirectory => true
  | nameTooLong => true
  | invalidPath => true
  | invalidText => false
  | other _ => false

inductive Error
  | baseWithUsername
  | baseWithPrivateMailboxes
  | privateMailboxesWithoutUsername
  | usernameWithoutPrivateMailboxes
  | missingSession
  | io (fault : Fault)
  | toml
  | log (cause : String)
  deriving DecidableEq

namespace Error

def message : Error → String
  | baseWithUsername => "Invalid query: base path cannot be combined with a user name"
  | baseWithPrivateMailboxes => "Invalid query: base path cannot be combined with private mailboxes"
  | privateMailboxesWithoutUsername => "Invalid query: private mailboxes requested without a user name"
  | usernameWithoutPrivateMailboxes => "Invalid query: user name given without private mailboxes"
  | missingSession => "Invalid query: no mailbox session"
  | io fault => fault.message
  | toml => "malformed TOML"
  | log cause => "Failed to initialise logging: " ++ cause

def isInvalidQuery : Error → Bool
  | baseWithUsername => true
  | baseWithPrivateMailboxes => true
  | privateMailboxesWithoutUsername => true
  | usernameWithoutPrivateMailboxes => true
  | missingSession => true
  | io _ => false
  | toml => false
  | log _ => false

end Error

end MailboxSearch
