import ClassTable.Template.Library

set_option autoImplicit false

namespace ClassTable.Template

inductive Builtin where
  | copyright
  | classDoc
  | field
  | constructor
  | accessor
  | classFile
deriving DecidableEq, Repr

namespace Builtin

def all : List Builtin := [copyright, classDoc, field, constructor, accessor, classFile]

def name : Builtin → String
  | copyright => "copyright"
  | classDoc => "class_doc"
  | field => "field"
  | constructor => "constructor"
  | accessor => "accessor"
  | classFile => "class"

def tag (content : String) : String := "\x7b\x7b" ++ content ++ "\x7d\x7d"

def copyrightSource : String :=
  "/*\n"
  ++ " * Copyright (c) " ++ tag "year" ++ " " ++ tag "meta.creator" ++ ". All rights reserved.\n"
  ++ " *\n"
  ++ " * Project: " ++ tag "meta.project" ++ " " ++ tag "meta.version" ++ "\n"
  ++ " * Generated by dtoforge. Do not edit by hand.\n"
  ++ " */\n"

def classDocSource : String :=
  "/**\n"
  ++ tag "#each description_lines" ++ "\n"
  ++ " *" ++ tag "#if this" ++ " " ++ tag "this" ++ tag "/if" ++ "\n"
  ++ tag "/each" ++ "\n"
  ++ " *\n"
  ++ " * @author " ++ tag "meta.creator" ++ "\n"
  ++ " * @version " ++ tag "meta.version" ++ "\n"
  ++ " * @since " ++ tag "meta.created" ++ "\n"
  ++ " */\n"

def fieldSource : String :=
  tag "#if description" ++ "\n"
  ++ "/** " ++ tag "description" ++ " */\n"
  ++ tag "/if" ++ "\n"
  ++ tag "#if non_null" ++ "\n"
  ++ "@NonNull\n"
  ++ tag "/if" ++ "\n"
  ++ "private " ++ tag "data_type" ++ " " ++ tag "name"
  ++ tag "#if initial_value" ++ " = " ++ tag "initial_value" ++ tag "/if" ++ ";\n"

def constructorSource : String :=
  "/**\n"
  ++ tag "#each doc" ++ "\n"
  ++ " *" ++ tag "#if this" ++ " " ++ tag "this" ++ tag "/if" ++ "\n"
  ++ tag "/each" ++ "\n"
  ++ " */\n"
  ++ "public " ++ tag "class_name" ++ "(" ++ tag "#each parameters" ++ tag "data_type" ++ " "
  ++ tag "name" ++ tag "#unless @last" ++ ", " ++ tag "/unless" ++ tag "/each" ++ ") \x7b\n"
  ++ tag "#each assignments" ++ "\n"
  ++ "    this." ++ tag "member" ++ " = " ++ tag "value" ++ ";\n"
  ++ tag "/each" ++ "\n"
  ++ "\x7d\n"

def accessorSource : String :=
  "/**\n"
  ++ " * @return the " ++ tag "name" ++ "\n"
  ++ " */\n"
  ++ "public " ++ tag "data_type" ++ " " ++ tag "getter name" ++ "() \x7b\n"
  ++ "    return " ++ tag "name" ++ ";\n"
  ++ "\x7d\n"

def membersSource (key block : String) : String :=
  tag ("#each " ++ key) ++ "\n"
  ++ "\n"
  ++ "    " ++ tag ("> " ++ block) ++ "\n"
  ++ tag "/each" ++ "\n"

def classFileSource : String :=
  tag "> copyright" ++ "\n"
  ++ "package " ++ tag "meta.package" ++ ";\n"
  ++ "\n"
  ++ "import lombok.Data;\n"
  ++ tag "#if uses_non_null" ++ "\n"
  ++ "import lombok.NonNull;\n"
  ++ tag "/if" ++ "\n"
  ++ "\n"
  ++ tag "> class_doc" ++ "\n"
  ++ "@Data\n"
  ++ "public class " ++ tag "class.name" ++ " \x7b\n"
  ++ membersSource "fields" "field"
  ++ membersSource "constructors" "constructor"
  ++ membersSource "fields" "accessor"
  ++ "\x7d\n"

def source : Builtin → String
  | copyright => copyrightSource
  | classDoc => classDocSource
  | field => fieldSource
  | constructor => constructorSource
  | accessor => accessorSource
  | classFile => classFileSource

end Builtin

def Library.builtin : Library :=
  Builtin.all.map fun b => (b.name, (parse? b.source).getD [])

end ClassTable.Template
