namespace SortPipeline

inductive LogLevel
  | debug
  | info
  | warn
  deriving DecidableEq

def LogLevel.name : LogLevel → String
  | .debug => "DEBUG"
  | .info => "INFO"
  | .warn => "WARN"

structure LogRecord where
  level : LogLevel
  target : String
  message : String
  fields : List (String × String)

end SortPipeline
