set_option autoImplicit false

/-! # Certificate checks

The names that a list of certificate checks may hold. A set of checks is a number of flags; beside
the checks themselves it answers to the names of what any number and any set of flags has, and these
are names in a list too, without any effect. -/

namespace Turnstile

namespace Address

/-- The checks that a certificate may be put to, by name. -/
def certificateChecks : List String :=
  ["VERIFY_DEFAULT", "VERIFY_CRL_CHECK_LEAF", "VERIFY_CRL_CHECK_CHAIN", "VERIFY_X509_STRICT",
    "VERIFY_ALLOW_PROXY_CERTS", "VERIFY_X509_TRUSTED_FIRST", "VERIFY_X509_PARTIAL_CHAIN"]

/-- What a set of flags has as a number. -/
def numberMembers : List String :=
  ["as_integer_ratio", "bit_count", "bit_length", "conjugate", "denominator", "from_bytes", "imag",
    "mro", "numerator", "real", "to_bytes"]

/-- What a set of flags has as a set. -/
def flagMembers : List String :=
  ["_all_bits_", "_boundary_", "_check_for_existing_members_", "_convert_", "_create_",
    "_find_data_repr_", "_find_data_type_", "_find_new_", "_flag_mask_", "_generate_next_value_",
    "_get_mixins_", "_inverted_", "_iter_member_", "_iter_member_by_def_", "_iter_member_by_value_",
    "_member_map_", "_member_names_", "_member_type_", "_missing_", "_new_member_",
    "_numeric_repr_", "_unhashable_values_", "_use_args_", "_value2member_map_", "_value_repr_"]

/-- What a set of flags has as a thing of any kind. -/
def commonMembers : List String :=
  ["__abs__", "__add__", "__and__", "__annotations__", "__base__", "__bases__", "__basicsize__",
    "__bool__", "__call__", "__ceil__", "__class__", "__contains__", "__delattr__", "__dict__",
    "__dictoffset__", "__dir__", "__divmod__", "__doc__", "__eq__", "__flags__", "__float__",
    "__floor__", "__floordiv__", "__format__", "__ge__", "__getattr__", "__getattribute__",
    "__getitem__", "__getnewargs__", "__getstate__", "__gt__", "__hash__", "__index__", "__init__",
    "__init_subclass__", "__instancecheck__", "__int__", "__invert__", "__itemsize__", "__iter__",
    "__le__", "__len__", "__lshift__", "__lt__", "__members__", "__mod__", "__module__", "__mro__",
    "__mul__", "__name__", "__ne__", "__neg__", "__new__", "__or__", "__pos__", "__pow__",
    "__prepare__", "__qualname__", "__radd__", "__rand__", "__rdivmod__", "__reduce__",
    "__reduce_ex__", "__repr__", "__reversed__", "__rfloordiv__", "__rlshift__", "__rmod__",
    "__rmul__", "__ror__", "__round__", "__rpow__", "__rrshift__", "__rshift__", "__rsub__",
    "__rtruediv__", "__rxor__", "__setattr__", "__sizeof__", "__str__", "__sub__",
    "__subclasscheck__", "__subclasses__", "__subclasshook__", "__text_signature__", "__truediv__",
    "__trunc__", "__weakref__", "__weakrefoffset__", "__xor__"]

/-- A set of checks answers to a name. -/
def hasMember (name : String) : Bool :=
  [certificateChecks, numberMembers, flagMembers, commonMembers].any (·.contains name)

end Address

end Turnstile
