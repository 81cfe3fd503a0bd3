import HeaderBindings.Text.Basic

/-!
# Help

What is printed when help is asked for or the command line is refused.
-/
namespace HeaderBindings.CommandLine

def usage : String :=
  "usage: cvbindgen [-h] [-o OUTPUT] [--manifest MANIFEST] [--config CONFIG]
                 [--types-profile TYPES_PROFILE] [--cpp CPP] [-I INCLUDE_DIRS]
                 [--prefix PREFIX] [--export-macro EXPORT_MACRO]
                 [--module MODULE] [--no-strict-constants]
                 [--verbose | --quiet]
                 headers [headers ...]
"

def help : String := usage ++ "
Generate PDL::PP bindings from OpenCV C API headers

positional arguments:
  headers               C header files to scan, in processing order

options:
  -h, --help            show this help message and exit
  -o OUTPUT, --output OUTPUT
                        Output .pd file (default: from config)
  --manifest MANIFEST   Also write an XML manifest of the bindings
  --config CONFIG       JSON/YAML configuration file
  --types-profile TYPES_PROFILE
                        Type profile with aliases / extra matrix types
                        (repeatable)
  --cpp CPP             C preprocessor command, e.g. \"gcc -E -P\"
  -I INCLUDE_DIRS       Include directory for the preprocessor (repeatable)
  --prefix PREFIX       Library function prefix to require and strip
  --export-macro EXPORT_MACRO
                        Export annotation macro wrapping return types
  --module MODULE       Host module name
  --no-strict-constants
                        Skip constants of headers the preprocessor rejects
  --verbose, -v         Debug logging
  --quiet, -q           Warnings and errors only

Examples:
    # Bind imgproc and write OpenCV.pd
    cvbindgen /usr/include/opencv2/imgproc/imgproc_c.h -o OpenCV.pd -I /usr/include

    # Several headers plus an XML manifest of everything that was bound
    cvbindgen core_c.h imgproc_c.h -o OpenCV.pd --manifest bindings.xml
"

def refusal : String := usage ++ "cvbindgen: error: unusable arguments\n"

end HeaderBindings.CommandLine
