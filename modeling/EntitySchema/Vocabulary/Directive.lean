/-
Names of directives: flags, which only hold or do not hold, and settings, which carry a value.

The value of a setting comes from a fixed list or, for some settings, is any single word.
-/

namespace EntitySchema

/-- the target that stands for every entity -/
def wildcard : String := "*"

/-- a directive without value -/
inductive Flag where
  | skipClient
  | skipServer
  | noFluentMethod
deriving DecidableEq, Repr

namespace Flag

def all : List Flag := [skipClient, skipServer, noFluentMethod]

def name : Flag → String
  | skipClient => "skipClient"
  | skipServer => "skipServer"
  | noFluentMethod => "noFluentMethod"

def ofName? (s : String) : Option Flag := all.find? fun f => f.name == s

end Flag

/-- a directive with a value -/
inductive Setting where
  | dto
  | service
  | pagination
  | microservice
  | searchEngine
  | angularSuffix
deriving DecidableEq, Repr

/-- letters, digits, `_` and `-` of ASCII, at least one -/
def isWord (s : String) : Bool :=
  !s.toList.isEmpty && s.toList.all fun c => c.isAlphanum || c == '_' || c == '-'

namespace Setting

def all : List Setting := [dto, service, pagination, microservice, searchEngine, angularSuffix]

def name : Setting → String
  | dto => "dto"
  | service => "service"
  | pagination => "pagination"
  | microservice => "microservice"
  | searchEngine => "searchEngine"
  | angularSuffix => "angularSuffix"

def ofName? (s : String) : Option Setting := all.find? fun o => o.name == s

/-- the values to choose from; none where any word will do -/
def values? : Setting → Option (List String)
  | dto => some ["mapstruct"]
  | service => some ["serviceClass", "serviceImpl"]
  | pagination => some ["pager", "pagination", "infinite-scroll"]
  | searchEngine => some ["elasticsearch"]
  | microservice | angularSuffix => none

def accepts (o : Setting) (value : String) : Bool :=
  match o.values? with
  | some values => value ∈ values
  | none => isWord value

end Setting

/-- what a directive is about -/
inductive Topic where
  | flag (f : Flag)
  | setting (o : Setting)
deriving DecidableEq, Repr

namespace Topic

def name : Topic → String
  | flag f => f.name
  | setting o => o.name

def ofName? (s : String) : Option Topic := ((Flag.ofName? s).map flag).or ((Setting.ofName? s).map setting)

def isSetting : Topic → Bool
  | flag _ => false
  | setting _ => true

end Topic

end EntitySchema
